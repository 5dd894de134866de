import JspEndpoint.Report.Numeral
import JspEndpoint.Report.Sheet

/-!
The YAML layout. A text of several lines is a literal block, any other text is plain where a reader
takes it for the same text, then single-quoted, and double-quoted where nothing else can hold it.
Lines are never folded.
-/

namespace JspEndpoint.Report.Yaml

def isBreak (c : Char) : Bool :=
  c = '\n' || c = '\r' || c.toNat = 0x85 || c.toNat = 0x2028 || c.toNat = 0x2029

def isPrintable (c : Char) : Bool :=
  let n := c.toNat
  c = '\n' || (0x20 ≤ n && n ≤ 0x7e) || (0xa0 ≤ n && n ≤ 0xfffd && n != 0xfeff) || 0x10000 ≤ n

def isGap (c : Char) : Bool := c = ' ' || c = '\t' || c.toNat = 0 || isBreak c

/-- A space next to a break, the space before it or after it. -/
def spaceBeforeBreak : Text → Bool
  | c :: d :: t => (c = ' ' && isBreak d) || spaceBeforeBreak (d :: t)
  | _ => false

def spaceAfterBreak : Text → Bool
  | c :: d :: t => (isBreak c && d = ' ') || spaceAfterBreak (d :: t)
  | _ => false

def readsAsOther (t : Text) : Bool :=
  (["", "null", "Null", "NULL", "~", "true", "True", "TRUE", "false", "False", "FALSE"] :
    List Text).contains t || Numeral.isInteger t || Numeral.isFloat t || Numeral.hasLeadingZero t

/-- Characters that start something else than a plain text. -/
def indicators : Text := "#,[]\x7b\x7d&*!|>'\"%@`"

def startsGap (t : Text) : Bool := t.head?.all isGap

/-- Whether a mark inside a text ends it as a plain one, given whether a gap stands before the text. -/
def brokenBy (afterGap : Bool) : Text → Bool
  | [] => false
  | c :: t => (c = ':' && startsGap t) || (c = '#' && afterGap) || brokenBy (isGap c) t

def isPlain : Text → Bool
  | [] => false
  | c :: t =>
    let all := c :: t
    !(c = ' ' || all.getLast? = some ' ' || Text.startsWith all ['-', '-', '-'] ||
      Text.startsWith all ['.', '.', '.'] || indicators.contains c ||
      ((c = '-' || c = '?' || c = ':') && startsGap t) || brokenBy (isGap c) t ||
      all.any isBreak || !all.all isPrintable)

def isSingleQuotable (t : Text) : Bool :=
  t.all isPrintable && !spaceBeforeBreak t && !spaceAfterBreak t

def isLiteral (t : Text) : Bool :=
  t.all isPrintable && !spaceBeforeBreak t && t.getLast? != some ' '

/-- Writes the characters of a text, with an indent in front of each one after a break. -/
def indentLines (indent : Nat) (write : Char → Text) (afterBreak : Bool) : Text → Text
  | [] => []
  | c :: t =>
    if isBreak c then c :: indentLines indent write true t
    else (if afterBreak then Text.spaces indent else []) ++ write c ++ indentLines indent write false t

/-- How the end of a literal block is kept: cut off, one break, or all of them. -/
def chompMark (t : Text) : Text :=
  match t.reverse with
  | [] => ['-']
  | [c] => if isBreak c then ['+'] else ['-']
  | c :: d :: _ => if isBreak c then (if isBreak d then ['+'] else []) else ['-']

def literalBlock (indent : Nat) (t : Text) : Text :=
  let mark := if t.head?.any fun c => c = ' ' || isBreak c then ['2'] else []
  let body := indentLines indent (fun c => [c]) true t
  ['|'] ++ mark ++ chompMark t ++ ['\n'] ++ body ++
    (if t.getLast?.any isBreak then [] else ['\n'])

def singleQuoted (indent : Nat) (t : Text) : Text :=
  ['\''] ++ indentLines indent (fun c => if c = '\'' then ['\'', '\''] else [c]) false t ++
    (if t.getLast?.any isBreak then Text.spaces indent else []) ++ ['\'']

/-- Escapes of one letter. -/
def shortEscapes : List (Nat × Char) :=
  [(0x00, '0'), (0x07, 'a'), (0x08, 'b'), (0x09, 't'), (0x0a, 'n'), (0x0b, 'v'), (0x0c, 'f'),
    (0x0d, 'r'), (0x1b, 'e'), (0x22, '"'), (0x5c, '\\'), (0x85, 'N'), (0x2028, 'L'), (0x2029, 'P')]

def escapeChar (c : Char) : Text :=
  match shortEscapes.lookup c.toNat with
  | some letter => ['\\', letter]
  | none =>
    if isPrintable c then [c]
    else if c.toNat ≤ 0xff then ['\\', 'x'] ++ (Text.hex 2 c.toNat).map Char.toUpper
    else ['\\', 'u'] ++ (Text.hex 4 c.toNat).map Char.toUpper

def doubleQuoted (t : Text) : Text := ['"'] ++ t.flatMap escapeChar ++ ['"']

/-- A text as the value of a key, up to and with its line break. -/
def textValue (indent : Nat) (t : Text) : Text :=
  if '\n' ∈ t then
    if isLiteral t then literalBlock indent t else doubleQuoted t ++ ['\n']
  else if readsAsOther t then singleQuoted indent t ++ ['\n']
  else if isPlain t then t ++ ['\n']
  else if isSingleQuotable t then singleQuoted indent t ++ ['\n']
  else doubleQuoted t ++ ['\n']

def scalarValue (indent : Nat) : Scalar → Text
  | .text t => textValue indent t
  | .flag b => if b then "true\n" else "false\n"

def member (indent : Nat) (name : Text) (s : Scalar) : Text :=
  name ++ ": " ++ scalarValue (indent + 2) s

/-- A record as an item of a list: a dash, then its members under each other. -/
def record : Record → Text
  | [] => "- \x7b\x7d\n"
  | (name, s) :: rest =>
    "- " ++ member 2 name s ++ rest.flatMap fun (name, s) => Text.spaces 2 ++ member 2 name s

def field (name : Text) : Field → Text
  | .scalar s => member 0 name s
  | .records [] => name ++ ": []\n"
  | .records rs => name ++ ":\n" ++ rs.flatMap record

def sheet (s : Sheet) : Text := s.flatMap fun (name, value) => field name value

end JspEndpoint.Report.Yaml
