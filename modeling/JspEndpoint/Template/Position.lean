import JspEndpoint.Text.Basic

/-!
Places in a template as people read them: lines count from one, columns are bytes from the start of
the line. The line of an offset is the last one that starts at it or before it, also past the end of
the text. It is searched among the line starts by halving.
-/

namespace JspEndpoint.Template

structure Position where
  line : Nat
  column : Nat
  deriving DecidableEq, Repr

/-- Offsets just after the line breaks of a text that starts at offset `here`. -/
def breaksFrom (here : Nat) : Text → List Nat
  | [] => []
  | c :: t =>
    let next := here + c.utf8Size
    if c = '\n' then next :: breaksFrom next t else breaksFrom next t

def lineStarts (source : Text) : List Nat := 0 :: breaksFrom 0 source

/-- Where a number stands in a sorted row: at an index, or nowhere, and then the index at which it
would have to be put in. -/
inductive Sought where
  | found (index : Nat)
  | missing (index : Nat)
  deriving DecidableEq, Repr

/-- Searches the row from index `low` up to, but not at, index `high`. -/
def searchBetween (row : Array Nat) (n low high : Nat) (inside : high ≤ row.size) : Sought :=
  if left : low < high then
    let middle := low + (high - low) / 2
    have within : middle < row.size := by omega
    if row[middle] = n then .found middle
    else if row[middle] < n then searchBetween row n (middle + 1) high inside
    else searchBetween row n low middle (by omega)
  else .missing low
termination_by high - low

def search (row : Array Nat) (n : Nat) : Sought := searchBetween row n 0 row.size (Nat.le_refl _)

/-- The index of the last number that is not greater than the one sought. -/
def Sought.floor : Sought → Nat
  | found index => index
  | missing index => index - 1

namespace Position

def ofOffset (source : Text) (offset : Nat) : Position :=
  let starts := (lineStarts source).toArray
  let line := (search starts offset).floor
  ⟨line + 1, offset - starts.getD line 0⟩

def text (p : Position) : Text := Text.ofNat p.line ++ ":" ++ Text.ofNat p.column

end Position

end JspEndpoint.Template
