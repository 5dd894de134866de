import JspEndpoint.Text.Basic

/-!
Decimal numbers as digits and a power of ten, and how they are read. A decimal rounds to the nearest
number of double precision; whether that is finite is decided exactly.
-/

namespace JspEndpoint

def digitValue? (base : Nat) (c : Char) : Option Nat :=
  let value? :=
    if c.isDigit then some (c.toNat - '0'.toNat)
    else if 'a' ≤ c ∧ c ≤ 'f' then some (c.toNat - 'a'.toNat + 10)
    else if 'A' ≤ c ∧ c ≤ 'F' then some (c.toNat - 'A'.toNat + 10)
    else none
  value?.filter (· < base)

/-- The value of a non-empty sequence of digits. -/
def digits? (base : Nat) (t : Text) : Option Nat :=
  if t.isEmpty then none
  else t.foldlM (fun value c => (digitValue? base c).map (value * base + ·)) 0

/-- The bases that are marked in front of the digits. -/
def markedBases : List (Text × Nat) := [("0x", 16), ("0o", 8), ("0b", 2)]

theorem digitValue?_digitChar {d : Nat} (h : d < 16) : digitValue? 16 (Nat.digitChar d) = some d := by
  have all : ∀ d < 16, digitValue? 16 (Nat.digitChar d) = some d := by decide
  exact all d h

theorem foldlM_toDigits (n : Nat) :
    (Nat.toDigits 16 n).foldlM (fun value c => (digitValue? 16 c).map (value * 16 + ·)) 0 = some n := by
  induction n using Nat.strongRecOn with
  | ind n ih =>
    by_cases small : n < 16
    · rw [Nat.toDigits_of_lt_base small, List.foldlM_cons, digitValue?_digitChar small]
      simp
    · have last := digitValue?_digitChar (Nat.mod_lt n (by decide : 16 > 0))
      rw [Nat.toDigits_of_base_le (by decide) (Nat.le_of_not_lt small), List.foldlM_append,
        ih (n / 16) (by omega), Option.bind_eq_bind, Option.bind_some, List.foldlM_cons, last]
      exact congrArg some (Nat.div_add_mod' n 16)

theorem digits?_hex (width n : Nat) : digits? 16 (Text.hex width n) = some n := by
  have some_digit : Nat.toDigits 16 n ≠ [] := List.length_pos_iff.1 Nat.length_toDigits_pos
  have zeros (k : Nat) : (List.replicate k '0').foldlM
      (fun value c => (digitValue? 16 c).map (value * 16 + ·)) 0 = some 0 := by
    induction k with
    | zero => rfl
    | succ k ih => exact ih
  rw [digits?, Text.hex, if_neg (by simp [some_digit]), List.foldlM_append, zeros]
  exact foldlM_toDigits n

theorem digits?_of_mem {base : Nat} {t : Text} {c : Char} (mem : c ∈ t)
    (strange : digitValue? base c = none) : digits? base t = none := by
  have stuck : ∀ value,
      t.foldlM (fun value c => (digitValue? base c).map (value * base + ·)) value = none := by
    induction t with
    | nil => cases mem
    | cons d t ih =>
      intro value
      rw [List.foldlM_cons]
      rcases List.mem_cons.1 mem with rfl | later
      · rw [strange]
        rfl
      · cases digitValue? base d with
        | none => rfl
        | some _ => exact ih later _
  rw [digits?, stuck, ite_self]

/-- The number `digits · 10 ^ exponent`. -/
structure Decimal where
  digits : Nat
  exponent : Int
  deriving DecidableEq, Repr

namespace Decimal

/-- An exponent after `e` or `E`, zero if there is none. -/
def exponent? : Text → Option Int
  | [] => some 0
  | e :: t =>
    if e = 'e' ∨ e = 'E' then
      match t with
      | '-' :: rest => (digits? 10 rest).map fun n => -(n : Int)
      | '+' :: rest => (digits? 10 rest).map fun n => (n : Int)
      | rest => (digits? 10 rest).map fun n => (n : Int)
    else none

/-- Digits with a point before, among or after them, or none, and an optional exponent. -/
def read? (t : Text) : Option Decimal :=
  let whole := t.takeWhile Char.isDigit
  let (fraction, tail) := match t.dropWhile Char.isDigit with
    | '.' :: rest => (rest.takeWhile Char.isDigit, rest.dropWhile Char.isDigit)
    | rest => ([], rest)
  do
    let digits ← digits? 10 (whole ++ fraction)
    let exponent ← exponent? tail
    return ⟨digits, exponent - fraction.length⟩

/-- The power of ten above the number. -/
def size (d : Decimal) : Int := (Nat.toDigits 10 d.digits).length + d.exponent

/-- The least value that rounds to infinity. -/
def overflowBound : Nat := Nat.pow 2 1024 - Nat.pow 2 970

/-- Whether the nearest double is finite. Numbers far out of range are settled by their size. -/
def isFinite (d : Decimal) : Bool :=
  if d.digits = 0 ∨ d.size ≤ 300 then true
  else if d.size > 320 then false
  else if 0 ≤ d.exponent then d.digits * Nat.pow 10 d.exponent.toNat < overflowBound
  else d.digits < overflowBound * Nat.pow 10 (-d.exponent).toNat

/-- The nearest double. -/
def toFloat (d : Decimal) : Float :=
  if d.digits = 0 ∨ d.size < -330 then 0.0
  else if !d.isFinite then 1.0 / 0.0
  else Float.ofScientific d.digits (d.exponent < 0) d.exponent.natAbs

end Decimal

end JspEndpoint
