import JspEndpoint.Decimal.Basic
import JspEndpoint.Settings.Data

/-!
The words of TOML: blanks, comments and line ends, strings in their four forms, keys and numbers. A
reader takes its word from the front of a text and returns what follows.
-/

namespace JspEndpoint.Settings.Toml

def skipSpaces (t : Text) : Text := t.dropWhile Text.isSpaceOrTab

/-- Characters that may stand in a comment or a string. -/
def isVisible (c : Char) : Bool := c = '\t' || (0x20 ≤ c.toNat && c.toNat != 0x7f)

def newline? : Text → Option Text
  | '\n' :: t => some t
  | '\r' :: '\n' :: t => some t
  | _ => none

def skipComment : Text → Text
  | '#' :: t => t.dropWhile isVisible
  | t => t

/-- The rest of a line: blanks, perhaps a comment, and a line end or the end of the text. -/
def lineEnd? (t : Text) : Option Text :=
  match skipComment (skipSpaces t) with
  | [] => some []
  | t => newline? t

/-- Skips blanks, line ends and comments, as many as there are; a comment has to end its line. -/
def skipTrivia (inComment : Bool) : Text → Text
  | [] => []
  | c :: t =>
    if inComment then
      if isVisible c then skipTrivia true t
      else if c = '\n' then skipTrivia false t
      else if c = '\r' ∧ t.head? = some '\n' then skipTrivia true t
      else c :: t
    else if Text.isSpaceOrTab c || c = '\n' then skipTrivia false t
    else if c = '\r' ∧ t.head? = some '\n' then skipTrivia false t
    else if c = '#' then skipTrivia true t
    else c :: t

def scalarValue? (digits : Text) : Option Char := do
  let n ← digits? 16 digits
  if n.isValidChar then some (Char.ofNat n) else none

/-- Escapes of one letter. -/
def letterEscapes : List (Char × Char) :=
  [('b', Char.ofNat 8), ('t', '\t'), ('n', '\n'), ('f', Char.ofNat 12), ('r', '\r'), ('"', '"'),
    ('\\', '\\')]

/-- The character after a backslash, and how many characters it is written with. -/
def escape? : Text → Option (Char × Nat)
  | 'u' :: t => if t.length < 4 then none else (scalarValue? (t.take 4)).map (·, 5)
  | 'U' :: t => if t.length < 8 then none else (scalarValue? (t.take 8)).map (·, 9)
  | c :: _ => (letterEscapes.lookup c).map (·, 1)
  | [] => none

/-- The body of a basic string up to its quote, after `skip` characters of an escape. -/
def basicBody? : Nat → Text → Option (Text × Text)
  | _, [] => none
  | skip + 1, _ :: t => basicBody? skip t
  | 0, c :: t =>
    if c = '"' then some ([], t)
    else if c = '\\' then
      match escape? t with
      | some (e, width) => (basicBody? width t).map fun (s, rest) => (e :: s, rest)
      | none => none
    else if isVisible c then (basicBody? 0 t).map fun (s, rest) => (c :: s, rest)
    else none

/-- The end of a string in triple quotes: up to two more quotes belong to the string. -/
def tripleEnd? (quote : Char) (t : Text) : Option (Text × Text) :=
  let run := (t.takeWhile (· = quote)).length
  if run < 3 then none
  else
    let extra := min (run - 3) 2
    some (List.replicate extra quote, t.drop (extra + 3))

/-- Whether a backslash before the text joins lines. -/
def joinsLines (t : Text) : Bool := (newline? (skipSpaces t)).isSome

/-- What a reader of a basic string in triple quotes does next. -/
inductive Mode where
  | read
  /-- Skip that many characters of an escape. -/
  | escaped (more : Nat)
  /-- Skip blanks and line ends after a backslash. -/
  | joining

def Mode.isJoining : Mode → Bool
  | joining => true
  | _ => false

def tripleBasicBody? : Mode → Text → Option (Text × Text)
  | _, [] => none
  | .escaped (more + 1), _ :: t => tripleBasicBody? (if more = 0 then .read else .escaped more) t
  | mode, c :: t =>
    let lineBreak : Bool := c = '\r' && t.head? == some '\n'
    if mode.isJoining && (Text.isSpaceOrTab c || c = '\n' || lineBreak) then tripleBasicBody? .joining t
    else if c = '"' ∧ (tripleEnd? '"' (c :: t)).isSome then tripleEnd? '"' (c :: t)
    else if c = '\\' then
      if joinsLines t then tripleBasicBody? .joining t
      else match escape? t with
        | some (e, width) =>
          (tripleBasicBody? (.escaped width) t).map fun (s, rest) => (e :: s, rest)
        | none => none
    else if lineBreak then tripleBasicBody? .read t
    else if isVisible c ∨ c = '\n' then
      (tripleBasicBody? .read t).map fun (s, rest) => (c :: s, rest)
    else none

def literalBody? : Text → Option (Text × Text)
  | [] => none
  | c :: t =>
    if c = '\'' then some ([], t)
    else if isVisible c then (literalBody? t).map fun (s, rest) => (c :: s, rest)
    else none

def tripleLiteralBody? : Text → Option (Text × Text)
  | [] => none
  | c :: t =>
    if c = '\'' ∧ (tripleEnd? '\'' (c :: t)).isSome then tripleEnd? '\'' (c :: t)
    else if c = '\r' ∧ t.head? = some '\n' then tripleLiteralBody? t
    else if isVisible c ∨ c = '\n' then
      (tripleLiteralBody? t).map fun (s, rest) => (c :: s, rest)
    else none

/-- Drops the line end that may follow an opening triple quote. -/
def dropFirstNewline (t : Text) : Text := (newline? t).getD t

/-- A string on one line. -/
def lineString? : Text → Option (Text × Text)
  | '"' :: t => basicBody? 0 t
  | '\'' :: t => literalBody? t
  | _ => none

def string? : Text → Option (Text × Text)
  | '"' :: '"' :: '"' :: t => tripleBasicBody? .read (dropFirstNewline t)
  | '\'' :: '\'' :: '\'' :: t => tripleLiteralBody? (dropFirstNewline t)
  | t => lineString? t

def isBareKeyChar (c : Char) : Bool := c.isAlphanum || c = '_' || c = '-'

def simpleKey? (t : Text) : Option (Text × Text) :=
  match t with
  | c :: _ =>
    if c = '"' ∨ c = '\'' then lineString? t
    else
      let name := t.takeWhile isBareKeyChar
      if name.isEmpty then none else some (name, t.drop name.length)
  | [] => none

/-- Digits with single underscores between them, without the underscores. -/
def moreDigits (isDigit : Char → Bool) : Text → Text × Text
  | c :: t =>
    if isDigit c then
      let (digits, rest) := moreDigits isDigit t
      (c :: digits, rest)
    else if c = '_' ∧ t.head?.any isDigit then moreDigits isDigit t
    else ([], c :: t)
  | [] => ([], [])

def digitRun? (isDigit : Char → Bool) (t : Text) : Option (Text × Text) :=
  if t.head?.any isDigit then some (moreDigits isDigit t) else none

def sign (t : Text) : Bool × Text :=
  match t with
  | '-' :: rest => (true, rest)
  | '+' :: rest => (false, rest)
  | rest => (false, rest)

/-- A whole decimal number without its sign: no zero stands in front of another digit. -/
def wholeDigits? (t : Text) : Option (Text × Text) :=
  match t with
  | '0' :: rest => some (['0'], rest)
  | t => digitRun? Char.isDigit t

def exponentPart? (t : Text) : Option (Text × Text) :=
  match t with
  | c :: rest =>
    if c = 'e' ∨ c = 'E' then do
      let (negative, rest) := sign rest
      let (digits, rest) ← digitRun? Char.isDigit rest
      return ('e' :: (if negative then ['-'] else []) ++ digits, rest)
    else none
  | [] => none

def fractionPart? (t : Text) : Option (Text × Text) := do
  let rest ← Text.after? ['.'] t
  let (digits, rest) ← digitRun? Char.isDigit rest
  return ('.' :: digits, rest)

/-- A fraction, an exponent, or both. -/
def floatPart? (t : Text) : Option (Text × Text) :=
  match fractionPart? t with
  | some (fraction, rest) =>
    match exponentPart? rest with
    | some (exponent, rest) => some (fraction ++ exponent, rest)
    | none => some (fraction, rest)
  | none => exponentPart? t

def namedFloat? (t : Text) : Option (Float × Text) :=
  match Text.after? "inf" t with
  | some rest => some (1.0 / 0.0, rest)
  | none => (Text.after? "nan" t).map (0.0 / 0.0, ·)

/-- A float. A number too large is refused, unless it is negative. -/
def float? (t : Text) : Option (Float × Text) := do
  let (negative, t) := sign t
  let signed (f : Float) : Float := if negative then -f else f
  match namedFloat? t with
  | some (f, rest) => return (signed f, rest)
  | none =>
    let (whole, rest) ← wholeDigits? t
    let (part, rest) ← floatPart? rest
    let decimal ← Decimal.read? (whole ++ part)
    if !negative && !decimal.isFinite then none
    return (signed decimal.toFloat, rest)

def markedInteger? (t : Text) : Option (Nat × Text) :=
  markedBases.findSome? fun (mark, base) => do
    let rest ← Text.after? mark t
    let (digits, rest) ← digitRun? (fun c => (digitValue? base c).isSome) rest
    let value ← digits? base digits
    return (value, rest)

/-- An integer of 64 bits. -/
def integer? (t : Text) : Option (Int × Text) :=
  match markedInteger? t with
  | some (value, rest) => if value < Nat.pow 2 63 then some (value, rest) else none
  | none => do
    let (negative, t) := sign t
    let (digits, rest) ← wholeDigits? t
    let value ← digits? 10 digits
    if negative then
      if value ≤ Nat.pow 2 63 then some (-(value : Int), rest) else none
    else if value < Nat.pow 2 63 then some (value, rest) else none

end JspEndpoint.Settings.Toml
