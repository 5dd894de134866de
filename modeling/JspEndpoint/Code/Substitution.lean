import JspEndpoint.Text.Blank
import JspEndpoint.Text.Word

/-!
Substitutions in Java code. A pattern is a sequence of atoms of which none has to give back what it
took, so matching is one pass. A rule replaces the leftmost matches that do not overlap, over a whole
text; the rules of a stage and scope are applied one after the other.
-/

namespace JspEndpoint.Code

inductive Atom where
  | literal (text : Text)
  | wordBoundary
  /-- As many blanks as there are. -/
  | blanks
  /-- A line break, if there is one. -/
  | lineBreak
  deriving DecidableEq, Repr

namespace Atom

/-- What the atom takes from the front of `t`, with `left` the character before `t`. -/
def take? (left : Option Char) (t : Text) : Atom → Option Text
  | literal text => if Text.startsWith t text then some text else none
  | wordBoundary => if Text.wordBoundary left t.head? then some [] else none
  | blanks => some (t.takeWhile Text.isBlank)
  | lineBreak => some (t.take 1 |>.filter (· = '\n'))

def escapeChar (c : Char) : Text :=
  if (".()*" : Text).contains c then ['\\', c] else [c]

/-- The atom in the usual notation for regular expressions. -/
def source : Atom → Text
  | literal text => text.flatMap escapeChar
  | wordBoundary => "\\b"
  | blanks => "\\s*"
  | lineBreak => "\\n?"

end Atom

abbrev Pattern := List Atom

namespace Pattern

/-- The match of the pattern at the front of `t`, with `left` the character before `t`. -/
def match? (left : Option Char) (t : Text) : Pattern → Option Text
  | [] => some []
  | atom :: rest => do
    let taken ← atom.take? left t
    let more ← match? (taken.getLast?.or left) (t.drop taken.length) rest
    return taken ++ more

def source (p : Pattern) : Text := p.flatMap Atom.source

end Pattern

/-- Replaces the matches of a pattern, after `skip` characters that belong to the match before. -/
def replaceFrom (p : Pattern) (replacement : Text) (left : Option Char) : Nat → Text → Text
  | _, [] => []
  | skip + 1, c :: t => replaceFrom p replacement (some c) skip t
  | 0, c :: t =>
    match p.match? left (c :: t) with
    | some (_ :: more) => replacement ++ replaceFrom p replacement (some c) more.length t
    | _ => c :: replaceFrom p replacement (some c) 0 t

def replaceAll (p : Pattern) (replacement : Text) (t : Text) : Text :=
  replaceFrom p replacement none 0 t

/-- When a rule is applied: as code is taken in, or each time that it is written. -/
inductive Stage where
  | intake
  | render
  deriving DecidableEq, Repr

/-- Which texts a rule is applied to. -/
inductive Scope where
  | scriptlet
  | declaration
  /-- The template as it is quoted at the end of the class. -/
  | sourceEcho
  deriving DecidableEq, Repr

structure Rule where
  stage : Stage
  scope : Scope
  pattern : Pattern
  replacement : Text
  deriving DecidableEq, Repr

/-- The page context has no counterpart in an endpoint: its setup call is dropped, and all other uses
go to the request. -/
def dropSetup : Rule :=
  ⟨.intake, .scriptlet,
    [.literal "PageContextFactory.setPageContext(pageContext);", .lineBreak], ""⟩

def renamePageContext : Rule :=
  ⟨.intake, .scriptlet, [.wordBoundary, .literal "pageContext", .wordBoundary], "request"⟩

/-- A scriptlet that returns leaves the page written so far. -/
def returnBuffer : Rule :=
  ⟨.render, .scriptlet, [.wordBoundary, .literal "return", .blanks, .literal ";"],
    "return stringOut.toString();"⟩

def renameResponse : Rule :=
  ⟨.render, .declaration, [.wordBoundary, .literal "ServletResponse", .wordBoundary],
    "HttpServletResponse"⟩

def hideDocOpener : Rule := ⟨.render, .sourceEcho, [.literal "/**"], "START-COMMENT"⟩

def hideOpener : Rule := ⟨.render, .sourceEcho, [.literal "/*"], "START-COMMENT"⟩

def hideCloser : Rule := ⟨.render, .sourceEcho, [.literal "*/"], "END-COMMENT"⟩

def rules : List Rule :=
  [dropSetup, renamePageContext, returnBuffer, renameResponse, hideDocOpener, hideOpener,
    hideCloser]

def Rule.apply (rule : Rule) (t : Text) : Text := replaceAll rule.pattern rule.replacement t

/-- Applies every rule of a stage and scope, in the order of `rules`. -/
def substitute (stage : Stage) (scope : Scope) (t : Text) : Text :=
  (rules.filter fun rule => rule.stage = stage ∧ rule.scope = scope).foldl (fun t rule => rule.apply t) t

end JspEndpoint.Code
