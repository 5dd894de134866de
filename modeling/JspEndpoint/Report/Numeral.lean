import JspEndpoint.Decimal.Basic

/-!
Texts that a reader of YAML takes for numbers. An integer has an optional sign and decimal,
hexadecimal, octal or binary digits, and fits in 128 bits; a float has a finite value in double
precision or is one of the named infinities and not-a-numbers. Digits after a leading zero are no
number.
-/

namespace JspEndpoint.Report.Numeral

def marked? (t : Text) : Option Nat :=
  markedBases.findSome? fun (mark, base) => (Text.after? mark t).bind (digits? base)

/-- Digits after a leading zero, with or without a sign. -/
def hasLeadingZero (t : Text) : Bool :=
  let unsigned := match t with
    | '+' :: rest | '-' :: rest => rest
    | rest => rest
  match unsigned with
  | '0' :: rest => !rest.isEmpty && rest.all Char.isDigit
  | _ => false

def magnitude? (t : Text) : Option Nat := (marked? t).or (digits? 10 t)

def isInteger (t : Text) : Bool :=
  if hasLeadingZero t then false
  else match t with
    | '-' :: rest => (magnitude? rest).any (· ≤ Nat.pow 2 127)
    | '+' :: rest => (magnitude? rest).any (· < Nat.pow 2 128)
    | rest => (magnitude? rest).any (· < Nat.pow 2 128)

def infinities : List Text := [".inf", ".Inf", ".INF"]

def notANumbers : List Text := [".nan", ".NaN", ".NAN"]

def isFloat (t : Text) : Bool :=
  if hasLeadingZero t then false
  else if notANumbers.contains t then true
  else
    let unsigned := match t with
      | '+' :: rest | '-' :: rest => rest
      | rest => rest
    infinities.contains unsigned || (Decimal.read? unsigned).any Decimal.isFinite

end JspEndpoint.Report.Numeral
