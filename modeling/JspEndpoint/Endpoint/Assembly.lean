import JspEndpoint.Endpoint.Class
import JspEndpoint.Template.Event

/-!
Building an endpoint class from the events of a page. Every event adds to one sequence of the class
and looks at its own text only; the one thing remembered is whether code has started, which decides
where a comment goes. Problems and signals add nothing.
-/

namespace JspEndpoint.Endpoint

open JspEndpoint.Template

/-- The text without an opener and an end mark, each removed where it stands. -/
def stripMarks (opener closer raw : Text) : Text :=
  let inner := (Text.after? opener raw).getD raw
  (Text.before? closer inner).getD inner

def stripConstruct (k : Construct) (raw : Text) : Text := stripMarks k.opener k.closer raw

/-- The value without quotes of the first attribute of that name. -/
def valueOf? (attributes : List Attribute) (name : Text) : Option Text :=
  (Attribute.find? attributes name).map Attribute.unquote

structure Assembly where
  page : EndpointClass
  /-- Whether a scriptlet, an expression or markup that is not blank has been seen. -/
  codeStarted : Bool
  deriving DecidableEq, Repr

namespace Assembly

def start (page : EndpointClass) : Assembly := ⟨page, false⟩

def add (a : Assembly) : Event → Assembly
  | .comment raw =>
    let text := Part.wrapComment (Text.trim (stripConstruct .comment raw))
    if a.codeStarted then { a with page := a.page.addCode (.comment text) }
    else { a with page := a.page.addComment text }
  | .declaration raw =>
    { a with page := a.page.addDeclaration (Text.trim (stripConstruct .declaration raw)) }
  | .importName quoted => { a with page := a.page.addImport (Attribute.unquote quoted) }
  | .code raw =>
    let code := Code.substitute .intake .scriptlet (stripConstruct .scriptlet raw)
    ⟨a.page.addCode (.scriptlet code), true⟩
  | .markup raw => ⟨a.page.addMarkup raw, a.codeStarted || !(Text.trim raw).isEmpty⟩
  | .expression raw => ⟨a.page.addCode (.expression (stripConstruct .expression raw)), true⟩
  | .bundleVariable attributes =>
    let key := (valueOf? attributes "key").getD []
    let var := (valueOf? attributes "var").getD []
    let scope := (valueOf? attributes "scope").getD "page"
    { a with page := a.page.addLookup key var scope }
  | .bundleSet attributes =>
    { a with page := a.page.addBundle ((valueOf? attributes "basename").getD []) true }
  | .problem .. | .ambiguity .. | .context .. => a

def addAll (a : Assembly) (events : List Event) : Assembly := events.foldl add a

end Assembly

end JspEndpoint.Endpoint
