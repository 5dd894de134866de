import JspEndpoint.Text.Basic

/-!
Bytes read as UTF-8 text whatever they are. Each longest run of bytes that starts a character and
cannot be completed, and each byte that starts none, is read as one replacement character.
-/

namespace JspEndpoint.Text

/-- What a byte announces: how many bytes follow it, the range of the first of them, and the bits that
the byte itself contributes. -/
structure Lead where
  follow : Nat
  low : Nat
  high : Nat
  bits : Nat
  deriving DecidableEq, Repr

def lead? (b : Nat) : Option Lead :=
  if b < 0x80 then some ⟨0, 0x80, 0xbf, b⟩
  else if 0xc2 ≤ b ∧ b ≤ 0xdf then some ⟨1, 0x80, 0xbf, b - 0xc0⟩
  else if b = 0xe0 then some ⟨2, 0xa0, 0xbf, 0⟩
  else if b = 0xed then some ⟨2, 0x80, 0x9f, 0xd⟩
  else if 0xe1 ≤ b ∧ b ≤ 0xef then some ⟨2, 0x80, 0xbf, b - 0xe0⟩
  else if b = 0xf0 then some ⟨3, 0x90, 0xbf, 0⟩
  else if b = 0xf4 then some ⟨3, 0x80, 0x8f, 4⟩
  else if 0xf1 ≤ b ∧ b ≤ 0xf3 then some ⟨3, 0x80, 0xbf, b - 0xf0⟩
  else none

def replacement : Char := '�'

/-- Reads up to `n` bytes, the first from the given range and the others from that of all bytes that
follow; the code point is complete if all of them are there. -/
def follow (low high code : Nat) : Nat → List Nat → Option Nat × List Nat
  | 0, bytes => (some code, bytes)
  | _ + 1, [] => (none, [])
  | n + 1, b :: bytes =>
    if low ≤ b ∧ b ≤ high then follow 0x80 0xbf (code * 64 + (b - 0x80)) n bytes
    else (none, b :: bytes)

theorem length_follow_le (low high code n : Nat) (bytes : List Nat) :
    (follow low high code n bytes).2.length ≤ bytes.length := by
  fun_induction follow low high code n bytes with
  | case1 => simp
  | case2 => simp
  | case3 _ _ _ _ b bytes _ ih =>
    have := ih
    simp only [List.length_cons]
    omega
  | case4 => simp

def ofBytes (bytes : List Nat) : Text :=
  match bytes with
  | [] => []
  | b :: bytes =>
    match lead? b with
    | none => replacement :: ofBytes bytes
    | some lead =>
      have := length_follow_le lead.low lead.high lead.bits lead.follow bytes
      let found := follow lead.low lead.high lead.bits lead.follow bytes
      found.1.elim replacement Char.ofNat :: ofBytes found.2
termination_by bytes.length

end JspEndpoint.Text
