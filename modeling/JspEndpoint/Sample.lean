import JspEndpoint.Conversion

/-!
Sample templates: plain markup, all kinds of blocks, resource bundles, and a page with problems.
-/

namespace JspEndpoint.Sample

def minimal : Text :=
  Text.lines
    ["<p>Hello</p>"]

def mixed : Text :=
  Text.lines
    ["<%-- Lists the users of the current account --%>",
      "<%@ page import=\"java.util.List, com.acme.User\" %>",
      "<%!",
      "\tprivate String label(ServletResponse response) \x7b",
      "\t\treturn \"users\";",
      "\t\x7d",
      "%>",
      "<html>",
      "<body>",
      "<%",
      "\tPageContextFactory.setPageContext(pageContext);",
      "\tList<User> users = (List<User>) pageContext.getAttribute(\"users\");",
      "\tif (users == null) \x7b",
      "\t\treturn;",
      "\t\x7d",
      "\tfor (User user : users) \x7b",
      "%>",
      "\t<li><%= user.getName() %></li>",
      "<%",
      "\t\x7d",
      "%>",
      "<%-- end of list --%>",
      "</body>",
      "</html>"]

def bundles : Text :=
  Text.lines
    ["<%@ taglib prefix=\"fmt\" uri=\"http://java.sun.com/jsp/jstl/fmt\" %>",
      "<fmt:setBundle basename=\"com.acme.messages\"/>",
      "<fmt:message key=\"page.title\" var=\"title\"/>",
      "<fmt:message key=\"page.footer\" var=\"footer\" scope=\"request\"/>",
      "<h1><%= title %></h1>"]

def broken : Text :=
  Text.lines
    ["<p>Broken page</p>",
      "<%@ bogus attribute=\"x\" %>",
      "<fmt:message key=\"greeting\"/>"]

def all : List (Text × Text) :=
  [("minimal.jsp", minimal), ("mixed.jsp", mixed), ("bundles.jsp", bundles), ("broken.jsp", broken)]

def names : List Text := all.map (·.1)

def get? (name : Text) : Option Text := all.lookup name

/-- Says that there is no such sample, and which there are. -/
def unavailableMessage (name : Text) : Text :=
  "IO error: Sample '" ++ name ++ "' is not available. Available samples: [" ++
    ((", " : Text).intercalate (names.map Text.quoted)) ++ "]"

/-- Converts a sample; its name is the route. -/
def convert (name package : Text) : Except ConversionError Endpoint.EndpointClass :=
  match get? name with
  | none => .error (.unreadable name)
  | some source => do
    let page ← Page.new? name package name Options.standard
    page.convert (some source)

end JspEndpoint.Sample
