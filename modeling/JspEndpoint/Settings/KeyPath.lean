import JspEndpoint.Decimal.Basic

/-!
Paths to a setting: a name, then names after dots and list indices in brackets. A negative index
counts from the end of the list.
-/

namespace JspEndpoint.Settings

inductive KeyStep where
  | child (name : Text)
  | index (i : Int)
  deriving DecidableEq, Repr

structure KeyPath where
  first : Text
  steps : List KeyStep
  deriving DecidableEq, Repr

namespace KeyPath

def isNameChar (c : Char) : Bool := c.isAlphanum || c = ' ' || c = '_' || c = '-'

def name? (t : Text) : Option (Text × Text) :=
  let name := t.takeWhile isNameChar
  if name.isEmpty then none else some (name, t.dropWhile isNameChar)

/-- An index after its opening bracket, up to and with the closing one. -/
def index? (t : Text) : Option (Int × Text) := do
  let t := t.dropWhile Text.isSpaceOrTab
  let (negative, t) := match t with
    | '-' :: rest => (true, rest)
    | rest => (false, rest)
  let n ← digits? 10 (t.takeWhile Char.isDigit)
  let t ← Text.after? [']'] ((t.dropWhile Char.isDigit).dropWhile Text.isSpaceOrTab)
  if negative then
    if n ≤ Nat.pow 2 63 then some (-(n : Int), t) else none
  else if n < Nat.pow 2 63 then some (n, t) else none

def step? : Text → Option (KeyStep × Text)
  | '.' :: t => (name? t).map fun (name, rest) => (.child name, rest)
  | '[' :: t => (index? t).map fun (i, rest) => (.index i, rest)
  | _ => none

/-- Steps up to the end of the text. -/
def steps? (t : Text) : Option (List KeyStep) :=
  if t.isEmpty then some []
  else
    match step? t with
    | none => none
    | some (step, rest) =>
      if rest.length < t.length then (steps? rest).map (step :: ·) else none
termination_by t.length

def ofText? (t : Text) : Option KeyPath := do
  let (first, rest) ← name? t
  let steps ← steps? rest
  return ⟨first, steps⟩

end KeyPath

end JspEndpoint.Settings
