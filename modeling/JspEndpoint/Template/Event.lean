import JspEndpoint.Template.Attribute
import JspEndpoint.Template.Lexeme

/-!
What a template says, in source order. One pass goes through the entries of the template; neighbouring
markup is kept back and handed over as one event. Problems and signals carry byte offsets into the
template.
-/

namespace JspEndpoint.Template

inductive Event where
  | comment (raw : Text)
  | declaration (raw : Text)
  /-- One name of an import list, in the quotes of the list. -/
  | importName (quoted : Text)
  | code (raw : Text)
  | markup (raw : Text)
  | expression (raw : Text)
  | bundleVariable (attributes : List Attribute)
  | bundleSet (attributes : List Attribute)
  | problem (offset : Nat) (message : Text)
  /-- Markup that looks like a construct. -/
  | ambiguity (offset : Nat) (message : Text)
  /-- An accepted directive of which something is left out. -/
  | context (offset : Nat) (message : Text)
  deriving DecidableEq, Repr

namespace Event

/-- Signals inform; they are no problems. -/
def isSignal : Event → Bool
  | ambiguity .. | context .. => true
  | _ => false

def problem? : Event → Option (Nat × Text)
  | problem offset message => some (offset, message)
  | _ => none

end Event

/-- The names of a quoted import list, each in the quotes of the list. -/
def importNames (quoted : Text) : List Text :=
  let quote := quoted.headD '"'
  (((Text.splitOn ',' (Attribute.unquote quoted)).map Text.trim).filter (!·.isEmpty)).map
    fun name => quote :: name ++ [quote]

/-- What an attribute of a page directive says. -/
def pageAttributeEvents (start : Nat) (a : Attribute) : List Event :=
  if a.name = "import" then (importNames a.value).map .importName
  else [.context start ("page attribute '" ++ a.name ++ "' is dropped")]

def directiveEvents (start : Nat) (body : Text) : List Event :=
  match readDirective body with
  | .error failure =>
    let bodyStart := start + Construct.directive.opener.byteLength
    [.problem (bodyStart + failure.byteOffset body) (failure.message "directive")]
  | .ok d =>
    if d.name = "page" then d.attributes.flatMap (pageAttributeEvents start)
    else if d.name = "taglib" ∨ d.name = "include" then []
    else [.problem start ("unknown directive '" ++ d.name ++ "'")]

def variableScopes : List Text := ["page", "request", "session", "application"]

/-- The attributes that a bundle tag cannot do without. -/
def Construct.requiredAttributes : Construct → List Text
  | .bundleMessage => ["key", "var"]
  | .bundleSet => ["basename"]
  | _ => []

/-- What is wrong with the attributes of a bundle tag; a scope is looked at only if none is missing. -/
def attributeProblems (k : Construct) (attributes : List Attribute) : List Text :=
  match k.requiredAttributes.filter fun name => (Attribute.find? attributes name).isNone with
  | [] =>
    match Attribute.find? attributes "scope" with
    | some scope =>
      if variableScopes.contains (Attribute.unquote scope) then []
      else ["invalid scope " ++ scope ++ " on " ++ k.title]
    | none => []
  | missing => missing.map fun name => "missing required attribute '" ++ name ++ "' on " ++ k.title

def bundleTagEvents (start : Nat) (k : Construct) (body : Text) : List Event :=
  match readTag body with
  | .error failure =>
    let bodyStart := start + k.opener.byteLength
    [.problem (bodyStart + failure.byteOffset body) (failure.message (k.title ++ " attributes"))]
  | .ok attributes =>
    match attributeProblems k attributes with
    | [] => if k = .bundleMessage then [.bundleVariable attributes] else [.bundleSet attributes]
    | problems => problems.map (.problem start)

def constructEvents (start : Nat) (k : Construct) (body : Text) : List Event :=
  let raw := k.opener ++ body ++ k.closer
  match k with
  | .comment => [.comment raw]
  | .declaration => [.declaration raw]
  | .expression => [.expression raw]
  | .scriptlet => [.code raw]
  | .directive => directiveEvents start body
  | .bundleMessage | .bundleSet => bundleTagEvents start k body

/-- A stretch of a template, by the byte offsets at which it starts and stops. -/
structure Span where
  start : Nat
  stop : Nat
  deriving DecidableEq, Repr

/-- A tag of the bundle library that is not supported stays in markup. The offset is the one behind
its `<`. -/
def unsupportedTag (source : Text) (behind : Nat) : List Event :=
  if Text.startsWith (source.dropBytes behind) ['f', 'm', 't', ':'] then
    [.ambiguity (behind - 1) "unsupported fmt tag passed through as markup"]
  else []

/-- Hands over the markup that is pending. -/
def flushMarkup (source : Text) : Option Span → List Event
  | some pending => [.markup (source.slice pending.start pending.stop)]
  | none => []

/-- The pending markup after an entry of markup. -/
def Placed.joinTo (p : Placed) : Option Span → Span
  | some pending => ⟨pending.start, p.stop⟩
  | none => ⟨p.start, p.stop⟩

/-- Goes through the entries of a template. Markup is pending until a construct or a failure comes or
the entries end. -/
def recognizeFrom (source : Text) (pending : Option Span) : List Placed → List Event
  | [] => flushMarkup source pending
  | p :: rest =>
    match p.lexeme with
    | .markup _ => recognizeFrom source (some (p.joinTo pending)) rest
    | .angle _ =>
      unsupportedTag source p.stop ++ recognizeFrom source (some (p.joinTo pending)) rest
    | .construct k body =>
      flushMarkup source pending ++ constructEvents p.start k body ++ recognizeFrom source none rest
    | .unclosed _ =>
      flushMarkup source pending ++ [.problem p.start (LexicalError.ofSlice p.lexeme.text)] ++
        recognizeFrom source none rest

/-- The events of a template, in source order. -/
def recognize (source : Text) : List Event := recognizeFrom source none (place 0 (scan source))

end JspEndpoint.Template
