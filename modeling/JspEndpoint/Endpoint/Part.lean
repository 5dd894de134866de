import JspEndpoint.Code.Literal
import JspEndpoint.Code.Substitution

/-!
The parts of an endpoint class that come from the page, and how each is written. A part keeps its
text as it was taken in; what is substituted on writing is never stored.
-/

namespace JspEndpoint.Endpoint

/-- Steps that stand at the top of the request method. -/
inductive BundleStep where
  /-- Reads the entry `key` of the bundle into the local variable `var`, published in `scope`. -/
  | lookup (key var scope : Text)
  /-- Loads a bundle; the first load declares the variable that holds it. -/
  | load (basename : Text) (declares : Bool)
  deriving DecidableEq, Repr

namespace BundleStep

def isLoad : BundleStep → Bool
  | load .. => true
  | lookup .. => false

/-- The object in which a variable of that scope is published; none for the page itself. -/
def holder? (scope : Text) : Option Text :=
  if scope = "request" then some "request"
  else if scope = "session" then some "session"
  else if scope = "application" then some "request.getServletContext()"
  else none

def render : BundleStep → Text
  | lookup key var scope =>
    "\t\tString " ++ var ++ " = bundle.getString(" ++ Code.literal key ++ ");\n" ++
      match holder? scope with
      | some holder => "\t\t" ++ holder ++ ".setAttribute(\"" ++ var ++ "\", " ++ var ++ ");\n"
      | none => []
  | load basename declares =>
    "\t\t" ++ (if declares then "ResourceBundle bundle" else "bundle") ++
      " = ResourceBundle.getBundle(" ++ Code.literal basename ++ ");\n"

end BundleStep

inductive Part where
  /-- A Java comment, with its delimiters. -/
  | comment (text : Text)
  | importName (name : Text)
  | declaration (code : Text)
  | scriptlet (code : Text)
  | markup (content : Text)
  | expression (expression : Text)
  | bundle (step : BundleStep)
  deriving DecidableEq, Repr

namespace Part

def isMarkup : Part → Bool
  | markup _ => true
  | _ => false

/-- Makes a block comment of bare text. -/
def wrapComment (t : Text) : Text := "/*\n" ++ t ++ "\n*/"

def render : Part → Text
  | comment text => text ++ ['\n']
  | importName name => "import " ++ name ++ ";\n"
  | declaration code => Code.substitute .render .declaration code ++ ['\n']
  | scriptlet code => Code.substitute .render .scriptlet code ++ ['\n']
  | markup content => "\t\tout.print(" ++ Code.literal content ++ ");\n"
  | expression e => "\t\tout.print(" ++ Text.trim e ++ ");\n"
  | bundle step => step.render

end Part

end JspEndpoint.Endpoint
