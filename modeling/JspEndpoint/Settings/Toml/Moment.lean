import JspEndpoint.Decimal.Basic

/-!
Dates and times in TOML, and the text that stands for them. Fields out of range and days that a month
does not have are refused; fractions of a second are kept to nine digits without zeros at the end.
-/

namespace JspEndpoint.Settings.Toml

/-- A number of exactly `width` decimal digits between `low` and `high`. -/
def field? (width low high : Nat) (t : Text) : Option (Nat × Text) := do
  let digits := t.take width
  if digits.length < width then none
  let value ← digits? 10 digits
  if low ≤ value ∧ value ≤ high then some (value, t.drop width) else none

def pad (width n : Nat) : Text :=
  let digits := Nat.toDigits 10 n
  List.replicate (width - digits.length) '0' ++ digits

def daysIn (year month : Nat) : Nat :=
  if month = 2 then
    if year % 4 = 0 ∧ (year % 100 ≠ 0 ∨ year % 400 = 0) then 29 else 28
  else if month = 4 ∨ month = 6 ∨ month = 9 ∨ month = 11 then 30
  else 31

def date? (t : Text) : Option (Text × Text) := do
  let (year, t) ← field? 4 0 9999 t
  let t ← Text.after? ['-'] t
  let (month, t) ← field? 2 1 12 t
  let t ← Text.after? ['-'] t
  let (day, t) ← field? 2 1 (daysIn year month) t
  return (pad 4 year ++ ['-'] ++ pad 2 month ++ ['-'] ++ pad 2 day, t)

/-- A fraction of a second with the point before it; none if it is zero or there is none. -/
def fraction (t : Text) : Text × Text :=
  match t with
  | '.' :: rest =>
    let digits := rest.takeWhile Char.isDigit
    if digits.isEmpty then ([], t)
    else
      let kept := ((digits.take 9).reverse.dropWhile (· = '0')).reverse
      (if kept.isEmpty then [] else '.' :: kept, rest.dropWhile Char.isDigit)
  | _ => ([], t)

def time? (t : Text) : Option (Text × Text) := do
  let (hour, t) ← field? 2 0 23 t
  let t ← Text.after? [':'] t
  let (minute, t) ← field? 2 0 59 t
  let t ← Text.after? [':'] t
  let (second, t) ← field? 2 0 60 t
  let (part, t) := fraction t
  return (pad 2 hour ++ [':'] ++ pad 2 minute ++ [':'] ++ pad 2 second ++ part, t)

def offset? (t : Text) : Option (Text × Text) :=
  match t with
  | c :: rest =>
    if c = 'Z' ∨ c = 'z' then some (['Z'], rest)
    else if c = '+' ∨ c = '-' then do
      let (hour, rest) ← field? 2 0 23 rest
      let rest ← Text.after? [':'] rest
      let (minute, rest) ← field? 2 0 59 rest
      let sign := if hour = 0 ∧ minute = 0 then '+' else c
      return (sign :: pad 2 hour ++ [':'] ++ pad 2 minute, rest)
    else none
  | [] => none

/-- A time after a date, with the mark between them and an optional offset. -/
def timeOfDay? (t : Text) : Option (Text × Text) :=
  match t with
  | c :: rest =>
    if c = 'T' ∨ c = 't' ∨ c = ' ' then do
      let (time, rest) ← time? rest
      match offset? rest with
      | some (offset, rest) => return ('T' :: time ++ offset, rest)
      | none => return ('T' :: time, rest)
    else none
  | [] => none

/-- A date, a time, or both. -/
def moment? (t : Text) : Option (Text × Text) :=
  match date? t with
  | some (date, rest) =>
    match timeOfDay? rest with
    | some (time, rest) => some (date ++ time, rest)
    | none => some (date, rest)
  | none => time? t

end JspEndpoint.Settings.Toml
