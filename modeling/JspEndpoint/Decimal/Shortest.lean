import JspEndpoint.Text.Basic

/-!
The text of a double: the fewest digits that read back as the same number, and of those the nearest
to it, written without an exponent. A number is `m · 2 ^ q`; the decimals that read back lie between
the midpoints to its neighbours, and count at the midpoints themselves if `m` is even.
-/

namespace JspEndpoint.Shortest

/-- A finite double without its sign: `m · 2 ^ q`. -/
structure Binary where
  m : Nat
  q : Int
  deriving DecidableEq, Repr

def Binary.ofBits (bits : Nat) : Binary :=
  let fraction := bits % Nat.pow 2 52
  let exponent : Nat := bits / Nat.pow 2 52 % Nat.pow 2 11
  if exponent = 0 then ⟨fraction, -1074⟩ else ⟨fraction + Nat.pow 2 52, (exponent : Int) - 1075⟩

namespace Binary

/-- The number times four, in units of `2 ^ (q - 2)`, and the ends of the interval that reads back. -/
def low (b : Binary) : Nat := 4 * b.m - if b.m = Nat.pow 2 52 ∧ b.q ≠ -1074 then 1 else 2

def high (b : Binary) : Nat := 4 * b.m + 2

/-- Compares `units · 2 ^ (q - 2)` with `d · 10 ^ p` by the two sides of a common multiple. -/
def sides (b : Binary) (units d : Nat) (p : Int) : Nat × Nat :=
  let e := b.q - 2
  (units * Nat.pow 2 e.toNat * Nat.pow 10 (-p).toNat, d * Nat.pow 10 p.toNat * Nat.pow 2 (-e).toNat)

def readsBack (b : Binary) (d : Nat) (p : Int) : Bool :=
  let (low, here) := b.sides b.low d p
  let (high, same) := b.sides b.high d p
  if b.m % 2 = 0 then low ≤ here && same ≤ high else low < here && same < high

/-- The largest multiple of `10 ^ p` that is not above the number. -/
def floorAt (b : Binary) (p : Int) : Nat :=
  let (number, unit) := b.sides (4 * b.m) 1 p
  number / unit

/-- The place of the leading digit: the number lies below `10 ^ place` and not below a tenth of it. -/
def place (b : Binary) : Int :=
  let whole := b.floorAt 0
  if whole ≠ 0 then (Nat.toDigits 10 whole).length
  else match (List.range 400).find? fun (j : Nat) => b.floorAt (-(j : Int)) ≠ 0 with
    | some j => 1 - (j : Int)
    | none => 0

/-- The nearer of the two multiples of `10 ^ p` around the number that reads back, if one does. -/
def nearest? (b : Binary) (p : Int) : Option Nat :=
  let d := b.floorAt p
  match b.readsBack d p, b.readsBack (d + 1) p with
  | true, true =>
    let (number, below) := b.sides (8 * b.m) (2 * d + 1) p
    some (if number < below ∨ (number = below ∧ d % 2 = 0) then d else d + 1)
  | true, false => some d
  | false, true => some (d + 1)
  | false, false => none

/-- Fewest digits: the number is `digits · 10 ^ p`. -/
def shortest (b : Binary) : Nat × Int :=
  let top := b.place
  match (List.range 17).findSome? fun (n : Nat) =>
      let p := top - 1 - (n : Int)
      (b.nearest? p).map (·, p) with
  | some found => found
  | none => (b.floorAt (top - 17), top - 17)

end Binary

/-- The digits without zeros at the end. -/
def trimZeros (digits : Text) : Text × Nat :=
  let zeros := (digits.reverse.takeWhile (· = '0')).length
  (digits.take (digits.length - zeros), zeros)

/-- Digits times a power of ten, with a point where it falls. -/
def positional (d : Nat) (p : Int) : Text :=
  let (digits, zeros) := trimZeros (Nat.toDigits 10 d)
  let p := p + zeros
  if 0 ≤ p then digits ++ List.replicate p.toNat '0'
  else
    let places := (-p).toNat
    if digits.length > places then
      digits.take (digits.length - places) ++ ['.'] ++ digits.drop (digits.length - places)
    else ['0', '.'] ++ List.replicate (places - digits.length) '0' ++ digits

def floatText (f : Float) : Text :=
  let bits := f.toBits.toNat
  let negative := bits / Nat.pow 2 63 = 1
  let exponent := bits / Nat.pow 2 52 % Nat.pow 2 11
  let unsigned : Text :=
    if exponent = 2047 then (if bits % Nat.pow 2 52 = 0 then "inf" else "NaN")
    else
      let b := Binary.ofBits bits
      if b.m = 0 then ['0'] else positional b.shortest.1 b.shortest.2
  if negative ∧ unsigned ≠ "NaN" then '-' :: unsigned else unsigned

end JspEndpoint.Shortest
