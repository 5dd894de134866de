import JspEndpoint.Text.Basic

/-!
Text inside Java string literals. Quotes, backslashes and control characters are escaped, so that a
literal stays on one line and ends at its own quote; all other characters are kept.
-/

namespace JspEndpoint.Code

def escapeChar (c : Char) : Text :=
  if c = '"' then ['\\', '"']
  else if c = '\\' then ['\\', '\\']
  else if c = '\n' then ['\\', 'n']
  else if c = '\r' then ['\\', 'r']
  else if c = '\t' then ['\\', 't']
  else if c.toNat < 0x20 then ['\\', 'u'] ++ Text.hex 4 c.toNat
  else [c]

def escape (t : Text) : Text := t.flatMap escapeChar

/-- A string literal, with its quotes. -/
def literal (t : Text) : Text := ['"'] ++ escape t ++ ['"']

end JspEndpoint.Code
