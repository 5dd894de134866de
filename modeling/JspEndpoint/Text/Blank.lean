import JspEndpoint.Text.Basic

/-!
Blanks: the characters with the Unicode property White_Space. They are what is trimmed from the
ends of a text, what may stand around attribute names and values, and what patterns skip.
-/

namespace JspEndpoint.Text

def blankRanges : List (Nat × Nat) := [
  (0x0009, 0x000d), (0x0020, 0x0020), (0x0085, 0x0085), (0x00a0, 0x00a0), (0x1680, 0x1680),
  (0x2000, 0x200a), (0x2028, 0x2029), (0x202f, 0x202f), (0x205f, 0x205f), (0x3000, 0x3000)]

def isBlank (c : Char) : Bool := inRanges blankRanges c

def skipBlanks (t : Text) : Text := t.dropWhile isBlank

def trim (t : Text) : Text := (skipBlanks (skipBlanks t).reverse).reverse

end JspEndpoint.Text
