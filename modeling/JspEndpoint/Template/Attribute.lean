import JspEndpoint.Text.Blank
import JspEndpoint.Text.Quoted

/-!
Attributes of directives and bundle tags. A body is read by a machine that takes one character at a
time and stops at the first one that no accepted body continues with, so a failure needs no search
for its place. Values keep their quotes.
-/

namespace JspEndpoint.Template

structure Attribute where
  name : Text
  /-- The value with the quotes around it. -/
  value : Text
  deriving DecidableEq, Repr

namespace Attribute

/-- Drops the first and the last character. -/
def unquote (quoted : Text) : Text := (quoted.drop 1).dropLast

/-- The value, with its quotes, of the first attribute of that name. -/
def find? (attributes : List Attribute) (name : Text) : Option Text :=
  (attributes.find? (·.name = name)).map (·.value)

def isNameChar (c : Char) : Bool :=
  c.isAlphanum || c = '_' || c = '-' || c = ':' || c = '.'

end Attribute

/-- Where a body stops being readable: an index in characters, and the character there, if any. -/
structure Failure where
  index : Nat
  found : Option Char
  deriving DecidableEq, Repr

namespace Failure

def message (context : Text) (failure : Failure) : Text :=
  match failure.found with
  | some c => "unexpected '" ++ Text.shownChar c ++ "' in " ++ context
  | none => "unexpected end of " ++ context

def byteOffset (body : Text) (failure : Failure) : Nat := Text.byteOffset body failure.index

end Failure

/-- A machine that reads a body character by character. -/
structure Machine (σ α : Type) where
  start : σ
  step : σ → Char → Option σ
  result : σ → Option α

namespace Machine

variable {σ α : Type}

def run (m : Machine σ α) (index : Nat) (state : σ) : Text → Except Failure α
  | [] =>
    match m.result state with
    | some a => .ok a
    | none => .error ⟨index, none⟩
  | c :: t =>
    match m.step state c with
    | some next => m.run (index + 1) next t
    | none => .error ⟨index, some c⟩

def read (m : Machine σ α) (body : Text) : Except Failure α := m.run 0 m.start body

end Machine

/-- How far an attribute list is read. Attributes and characters read so far stand in reverse. -/
inductive ListState where
  /-- Before an attribute or after the last one. -/
  | gap (done : List Attribute)
  | name (done : List Attribute) (read : Text)
  /-- After a name, before the `=`. -/
  | named (done : List Attribute) (name : Text)
  /-- After the `=`, before the value. -/
  | equals (done : List Attribute) (name : Text)
  | value (done : List Attribute) (name : Text) (quote : Char) (read : Text)
  deriving DecidableEq, Repr

namespace ListState

def step : ListState → Char → Option ListState
  | gap done, c =>
    if Text.isBlank c then some (gap done)
    else if Attribute.isNameChar c then some (name done [c])
    else none
  | name done read, c =>
    if Attribute.isNameChar c then some (name done (c :: read))
    else if Text.isBlank c then some (named done read.reverse)
    else if c = '=' then some (equals done read.reverse)
    else none
  | named done n, c =>
    if Text.isBlank c then some (named done n)
    else if c = '=' then some (equals done n)
    else none
  | equals done n, c =>
    if Text.isBlank c then some (equals done n)
    else if c = '"' ∨ c = '\'' then some (value done n c [c])
    else none
  | value done n quote read, c =>
    if c = quote then some (gap (⟨n, (c :: read).reverse⟩ :: done))
    else some (value done n quote (c :: read))

def result : ListState → Option (List Attribute)
  | gap done => some done.reverse
  | _ => none

end ListState

/-- How far the body of a tag is read: attributes, then perhaps a slash. -/
inductive TagState where
  | fresh
  /-- Blanks that may not end the body. -/
  | blank
  | list (state : ListState)
  | slash (attributes : List Attribute)
  deriving DecidableEq, Repr

namespace TagState

/-- A step before the first attribute, or at a place where one could start. -/
def stepGap (done : List Attribute) (c : Char) : Option TagState :=
  if c = '/' then some (slash done.reverse) else ((ListState.gap done).step c).map list

def step : TagState → Char → Option TagState
  | fresh, c | blank, c => if Text.isBlank c then some blank else stepGap [] c
  | list (.gap done), c => stepGap done c
  | list state, c => (state.step c).map list
  | slash attributes, c => if Text.isBlank c then some (slash attributes) else none

def result : TagState → Option (List Attribute)
  | fresh => some []
  | blank => none
  | list state => state.result
  | slash attributes => some attributes

end TagState

def tagMachine : Machine TagState (List Attribute) := ⟨.fresh, TagState.step, TagState.result⟩

def readTag (body : Text) : Except Failure (List Attribute) := tagMachine.read body

structure Directive where
  name : Text
  attributes : List Attribute
  deriving DecidableEq, Repr

inductive DirectiveState where
  | lead
  | name (read : Text)
  | list (name : Text) (state : ListState)
  deriving DecidableEq, Repr

namespace DirectiveState

def isFirst (c : Char) : Bool := c.isAlpha || c = '_'

def isNext (c : Char) : Bool := c.isAlphanum || c = '_'

def step : DirectiveState → Char → Option DirectiveState
  | lead, c =>
    if Text.isBlank c then some lead else if isFirst c then some (name [c]) else none
  | name read, c =>
    if isNext c then some (name (c :: read))
    else ((ListState.gap []).step c).map (list read.reverse)
  | list n state, c => (state.step c).map (list n)

def result : DirectiveState → Option Directive
  | lead => none
  | name read => some ⟨read.reverse, []⟩
  | list n state => state.result.map (⟨n, ·⟩)

end DirectiveState

def directiveMachine : Machine DirectiveState Directive :=
  ⟨.lead, DirectiveState.step, DirectiveState.result⟩

def readDirective (body : Text) : Except Failure Directive := directiveMachine.read body

end JspEndpoint.Template
