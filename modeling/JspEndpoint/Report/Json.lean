import JspEndpoint.Report.Sheet

/-!
The JSON layout: two spaces to a level, one member or element to a line, empty lists closed at once.
Characters outside ASCII are kept; controls, quotes and backslashes are escaped.
-/

namespace JspEndpoint.Report.Json

def escapeChar (c : Char) : Text :=
  if c = '"' then ['\\', '"']
  else if c = '\\' then ['\\', '\\']
  else if c.toNat = 0x08 then ['\\', 'b']
  else if c.toNat = 0x0c then ['\\', 'f']
  else if c = '\n' then ['\\', 'n']
  else if c = '\r' then ['\\', 'r']
  else if c = '\t' then ['\\', 't']
  else if c.toNat < 0x20 then ['\\', 'u'] ++ Text.hex 4 c.toNat
  else [c]

def string (t : Text) : Text := ['"'] ++ t.flatMap escapeChar ++ ['"']

/-- Items between brackets, each on a line of its own. -/
def block (opening closing : Char) (indent : Nat) (items : List Text) : Text :=
  match items with
  | [] => [opening, closing]
  | items =>
    [opening] ++
      (",".toList.intercalate (items.map fun item => '\n' :: Text.spaces (indent + 2) ++ item)) ++
      ['\n'] ++ Text.spaces indent ++ [closing]

def array (indent : Nat) (items : List Text) : Text := block '[' ']' indent items

def object (indent : Nat) (members : List (Text × Text)) : Text :=
  block '{' '}' indent (members.map fun (name, value) => string name ++ ": " ++ value)

def scalar : Scalar → Text
  | .text t => string t
  | .flag b => if b then "true" else "false"

def record (indent : Nat) (r : Record) : Text :=
  object indent (r.map fun (name, value) => (name, scalar value))

def field (indent : Nat) : Field → Text
  | .scalar s => scalar s
  | .records rs => array indent (rs.map (record (indent + 2)))

def sheet (s : Sheet) : Text := object 0 (s.map fun (name, value) => (name, field 2 value))

def texts (items : List Text) : Text := array 0 (items.map string)

end JspEndpoint.Report.Json
