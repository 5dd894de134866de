import JspEndpoint.Endpoint.Part

/-!
The endpoint class made from one page: header comments, imports, the code of the request method,
member declarations and the bundle steps at the top of the method. Every sequence keeps the order of
the page, nothing is deduplicated, and writing is a function of the class alone.
-/

namespace JspEndpoint.Endpoint

structure EndpointClass where
  package : Text
  className : Text
  routePath : Text
  sourcePath : Text
  /-- The template, quoted at the end of the class if it is given. -/
  sourceText : Option Text
  componentName : Option Text
  /-- Java comments, with their delimiters, in front of the class. -/
  comments : List Text
  imports : List Text
  codes : List Part
  declarations : List Text
  scopeSetup : List BundleStep
  deriving DecidableEq, Repr

/-- A route with a slash in front. -/
def normalizeRoute (route : Text) : Text :=
  if Text.startsWith route ['/'] then route else '/' :: route

/-- Appends markup to code, joined with markup that stands last. -/
def joinMarkup (content : Text) : List Part → List Part
  | [] => [.markup content]
  | [.markup before] => [.markup (before ++ content)]
  | part :: rest => part :: joinMarkup content rest

namespace EndpointClass

def new (package className route sourcePath : Text) : EndpointClass where
  package := package
  className := className
  routePath := normalizeRoute route
  sourcePath := sourcePath
  sourceText := none
  componentName := none
  comments := []
  imports := []
  codes := []
  declarations := []
  scopeSetup := []

def addComment (c : EndpointClass) (text : Text) : EndpointClass :=
  { c with comments := c.comments ++ [text] }

def addImport (c : EndpointClass) (name : Text) : EndpointClass :=
  { c with imports := c.imports ++ [name] }

def addDeclaration (c : EndpointClass) (code : Text) : EndpointClass :=
  { c with declarations := c.declarations ++ [code] }

def addCode (c : EndpointClass) (part : Part) : EndpointClass :=
  { c with codes := c.codes ++ [part] }

def addMarkup (c : EndpointClass) (content : Text) : EndpointClass :=
  { c with codes := joinMarkup content c.codes }

def addLookup (c : EndpointClass) (key var scope : Text) : EndpointClass :=
  { c with scopeSetup := c.scopeSetup ++ [.lookup key var scope] }

def bundleImport : Text := "java.util.ResourceBundle"

/-- Adds a bundle and the import that it needs. After another bundle it declares no variable. -/
def addBundle (c : EndpointClass) (basename : Text) (declares : Bool) : EndpointClass :=
  let declares := declares && !c.scopeSetup.any BundleStep.isLoad
  { c.addImport bundleImport with scopeSetup := c.scopeSetup ++ [.load basename declares] }

/-- The comment at the top, up to the path of the page. -/
def header : Text :=
  Text.lines [
    "/*",
    " * This class was automatically generated when transforming PPI to a JEE app",
    " * on November 2013.",
    " * ",
    " * The code of the generator can be found at:",
    " * https://github.com/ivanator/jsp-parser",
    " * ",
    " * Class derived from this source JSP:"] ++ " * "

def standardImports : List Text :=
  ["java.io.StringWriter", "java.io.PrintWriter", "java.io.Writer", "javax.ejb.Stateless",
    "javax.servlet.http.HttpServletRequest", "javax.servlet.http.HttpServletResponse",
    "javax.servlet.http.HttpSession", "javax.servlet.jsp.PageContext", "javax.ws.rs.GET",
    "javax.ws.rs.POST", "javax.ws.rs.Path", "javax.ws.rs.Produces", "javax.ws.rs.core.Context"]

def methodStart : Text :=
  Text.lines [
    "\t@GET @POST",
    "\t@Produces(\"application/json; charset=UTF-8\")",
    "\tpublic String doRun(",
    "\t\t\t@Context HttpServletRequest request,",
    "\t\t\t@Context HttpServletResponse response) throws Exception \x7b",
    "\t\tHttpSession session = request.getSession(false);",
    "\t\tWriter stringOut = new StringWriter();",
    "\t\tPrintWriter out = new PrintWriter(stringOut);"]

def methodEnd : Text := Text.lines ["\t\treturn stringOut.toString();", "\t\x7d"]

def renderParts (parts : List Part) : Text := parts.flatMap Part.render

def renderPackage (package : Text) : Text :=
  if package.isEmpty then [] else "package " ++ package ++ ";\n"

def renderAnnotations (c : EndpointClass) : Text :=
  let name := match c.componentName with
    | some name => "(name=\"" ++ name ++ "\")"
    | none => []
  "@Stateless" ++ name ++ "\n@Path(\"" ++ c.routePath ++ "\")\n"

def renderBody (c : EndpointClass) : Text :=
  "public class " ++ c.className ++ " \x7b\n" ++ methodStart ++
    renderParts (c.scopeSetup.map .bundle) ++ renderParts c.codes ++ methodEnd ++
    renderParts (c.declarations.map .declaration) ++ "\x7d"

/-- The class without the template quoted after it. -/
def renderClass (c : EndpointClass) : Text :=
  header ++ c.sourcePath ++ "\n */\n" ++ renderPackage c.package ++
    renderParts (standardImports.map .importName) ++ renderParts (c.imports.map .importName) ++
    renderParts (c.comments.map .comment) ++ c.renderAnnotations ++ c.renderBody

/-- The template in a comment, with its own comment marks replaced. -/
def renderEcho (source : Text) : Text :=
  Text.lines [
    "",
    "/*",
    "Original JSP code as follows",
    "(block comments replaced by: \"START-COMMENT\" and \"END-COMMENT\"):",
    "---- ---- ----"] ++ Code.substitute .render .sourceEcho source ++ "\n---- ---- ----\n*/"

def render (c : EndpointClass) : Text :=
  match c.sourceText with
  | some source => c.renderClass ++ renderEcho source
  | none => c.renderClass

/-- Classes are compared by what is written for them, whatever parts they were made from. -/
def sameCode (c d : EndpointClass) : Bool := c.render == d.render

/-- The hash that goes with `sameCode`. -/
def codeHash (c : EndpointClass) : UInt64 := hash (String.ofList c.render)

theorem codeHash_eq {c d : EndpointClass} (h : c.sameCode d) : c.codeHash = d.codeHash := by
  have written : c.render = d.render := eq_of_beq h
  rw [codeHash, codeHash, written]

end EndpointClass

end JspEndpoint.Endpoint
