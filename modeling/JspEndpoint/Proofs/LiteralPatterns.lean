import JspEndpoint.Code.Substitution
import Mathlib.Data.List.Infix

/-!
Substitution of a fixed text. The text falls into the pieces between the occurrences of the mark that
are replaced, and the result has the same pieces with the replacement between them. No piece holds the
mark. A replacement without a character of some other text neither makes an occurrence of that text
nor joins two parts of one, so what the result holds was there before.
-/

namespace JspEndpoint.Text

theorem infix_append_cons_iff {w front back : Text} {c : Char} (apart : c ∉ w) :
    w <:+: front ++ c :: back ↔ w <:+: front ∨ w <:+: back := by
  have none_across : ∀ part : Text, part <+: c :: back → (∀ d ∈ part, d ∈ w) → part = [] := by
    intro part starts inside
    cases part with
    | nil => rfl
    | cons d rest =>
      obtain rfl := (List.cons_prefix_cons.1 starts).1
      exact absurd (inside d List.mem_cons_self) apart
  constructor
  · intro occurs
    rcases List.infix_append_iff.1 occurs with left | right | ⟨l, r, rfl, ends, starts⟩
    · exact .inl left
    · rcases List.infix_cons_iff.1 right with starts | right
      · rw [none_across w starts fun _ h => h]
        exact .inl (List.nil_infix)
      · exact .inr right
    · rw [none_across r starts fun _ h => List.mem_append_right l h, List.append_nil]
      exact .inl ends.isInfix
  · rintro (left | right)
    · exact left.trans (List.prefix_append front _).isInfix
    · exact right.trans ⟨front ++ [c], [], by simp⟩

theorem infix_append_left_iff {w wall back : Text} (ne : w ≠ []) (apart : ∀ c ∈ wall, c ∉ w) :
    w <:+: wall ++ back ↔ w <:+: back := by
  induction wall with
  | nil => rfl
  | cons c wall ih =>
    obtain ⟨first, others⟩ := List.forall_mem_cons.1 apart
    have cut : w <:+: [] ++ c :: (wall ++ back) ↔ w <:+: [] ∨ w <:+: wall ++ back :=
      infix_append_cons_iff first
    rw [List.nil_append, List.infix_nil] at cut
    rw [List.cons_append, cut, ih others]
    simp [ne]

theorem infix_append_right_iff {w front wall : Text} (ne : w ≠ []) (apart : ∀ c ∈ wall, c ∉ w) :
    w <:+: front ++ wall ↔ w <:+: front := by
  cases wall with
  | nil => rw [List.append_nil]
  | cons c wall =>
    obtain ⟨first, others⟩ := List.forall_mem_cons.1 apart
    have behind : w <:+: wall ++ [] ↔ w <:+: [] := infix_append_left_iff ne others
    rw [List.append_nil, List.infix_nil] at behind
    rw [infix_append_cons_iff first, behind]
    simp [ne]

theorem exists_infix_of_intercalate {w wall : Text} (ne : w ≠ []) (wall_ne : wall ≠ [])
    (apart : ∀ c ∈ wall, c ∉ w) {pieces : List Text} (h : w <:+: wall.intercalate pieces) :
    ∃ piece ∈ pieces, w <:+: piece := by
  induction pieces with
  | nil => simp [ne] at h
  | cons piece rest ih =>
    by_cases last : rest = []
    · subst last
      rw [List.intercalate_singleton] at h
      exact ⟨piece, List.mem_cons_self, h⟩
    · obtain ⟨c, wall', rfl⟩ := List.exists_cons_of_ne_nil wall_ne
      obtain ⟨first, others⟩ := List.forall_mem_cons.1 apart
      rw [List.intercalate_cons_of_ne_nil last, List.append_assoc, List.cons_append,
        infix_append_cons_iff first, infix_append_left_iff ne others] at h
      rcases h with here | later
      · exact ⟨piece, List.mem_cons_self, here⟩
      · obtain ⟨found, inside, holds⟩ := ih later
        exact ⟨found, List.mem_cons_of_mem piece inside, holds⟩

theorem intercalate_cons_head (wall : Text) (c : Char) (piece : Text) (rest : List Text) :
    wall.intercalate ((c :: piece) :: rest) = c :: wall.intercalate (piece :: rest) := by
  cases rest with
  | nil => simp
  | cons second rest => simp [List.intercalate_cons_cons]

theorem prefix_intercalate (wall piece : Text) (rest : List Text) :
    piece <+: wall.intercalate (piece :: rest) := by
  cases rest with
  | nil => rw [List.intercalate_singleton]
  | cons second rest =>
    rw [List.intercalate_cons_cons, List.append_assoc]
    exact List.prefix_append _ _

theorem infix_intercalate_of_mem {wall piece : Text} {pieces : List Text} (h : piece ∈ pieces) :
    piece <:+: wall.intercalate pieces := by
  induction pieces with
  | nil => cases h
  | cons first rest ih =>
    rcases List.mem_cons.1 h with rfl | later
    · exact (prefix_intercalate wall piece rest).isInfix
    · rw [List.intercalate_cons_of_ne_nil (List.ne_nil_of_mem later)]
      exact (ih later).trans (List.suffix_append _ _).isInfix

end JspEndpoint.Text

namespace JspEndpoint.Code

theorem getLast?_cons_or (c : Char) (s : Text) (left : Option Char) :
    (c :: s).getLast?.or left = s.getLast?.or (some c) := by
  rw [List.getLast?_cons]
  cases s.getLast? <;> rfl

theorem replaceFrom_skip (p : Pattern) (replacement : Text) (left : Option Char) (s t : Text) :
    replaceFrom p replacement left s.length (s ++ t) =
      replaceFrom p replacement (s.getLast?.or left) 0 t := by
  induction s generalizing left with
  | nil => rfl
  | cons c s ih =>
    rw [List.length_cons, List.cons_append, replaceFrom, ih, getLast?_cons_or]

theorem replaceFrom_match {p : Pattern} (replacement : Text) {left : Option Char} {found t : Text}
    (ne : found ≠ []) (taken : p.match? left (found ++ t) = some found) :
    replaceFrom p replacement left 0 (found ++ t) =
      replacement ++ replaceFrom p replacement (found.getLast?.or left) 0 t := by
  obtain ⟨c, more, rfl⟩ := List.exists_cons_of_ne_nil ne
  rw [List.cons_append] at taken ⊢
  rw [replaceFrom, taken]
  dsimp only
  rw [replaceFrom_skip, getLast?_cons_or]

theorem replaceFrom_none {p : Pattern} (replacement : Text) {left : Option Char} {c : Char} {t : Text}
    (missed : p.match? left (c :: t) = none) :
    replaceFrom p replacement left 0 (c :: t) = c :: replaceFrom p replacement (some c) 0 t := by
  rw [replaceFrom, missed]

theorem match?_literal (left : Option Char) (mark t : Text) :
    Pattern.match? left t [.literal mark] = if mark <+: t then some mark else none := by
  simp only [Pattern.match?, Atom.take?, Text.startsWith, Text.after?_isSome_iff]
  split <;> simp

section Literal

variable {mark : Text} (replacement : Text)

theorem replaceFrom_mark (ne : mark ≠ []) (left : Option Char) (t : Text) :
    replaceFrom [.literal mark] replacement left 0 (mark ++ t) =
      replacement ++ replaceFrom [.literal mark] replacement (mark.getLast?.or left) 0 t := by
  apply replaceFrom_match replacement ne
  rw [match?_literal, if_pos (List.prefix_append mark t)]

theorem replaceFrom_other {c : Char} {t : Text} (other : ¬mark <+: c :: t) (left : Option Char) :
    replaceFrom [.literal mark] replacement left 0 (c :: t) =
      c :: replaceFrom [.literal mark] replacement (some c) 0 t := by
  apply replaceFrom_none
  rw [match?_literal, if_neg other]

theorem exists_pieces (ne : mark ≠ []) (left : Option Char) (t : Text) :
    ∃ pieces, pieces ≠ [] ∧ t = mark.intercalate pieces ∧
      replaceFrom [.literal mark] replacement left 0 t = replacement.intercalate pieces ∧
      ∀ piece ∈ pieces, ¬mark <:+: piece := by
  induction size : t.length using Nat.strong_induction_on generalizing t left with
  | _ n ih =>
    cases t with
    | nil => exact ⟨[[]], by simp, by simp, by simp [replaceFrom], by simpa using ne⟩
    | cons c t =>
      by_cases here : mark <+: c :: t
      · obtain ⟨rest, same⟩ := here
        have shorter : rest.length < n := by
          have wide := List.length_pos_iff.2 ne
          rw [← size, ← same, List.length_append]
          omega
        obtain ⟨pieces, some_piece, text, result, free⟩ :=
          ih rest.length shorter (mark.getLast?.or left) rest rfl
        refine ⟨[] :: pieces, List.cons_ne_nil _ _, ?_, ?_, ?_⟩
        · rw [List.intercalate_cons_of_ne_nil some_piece, ← text, List.nil_append, same]
        · rw [← same, replaceFrom_mark replacement ne, result,
            List.intercalate_cons_of_ne_nil some_piece, List.nil_append]
        · exact List.forall_mem_cons.2 ⟨by simpa using ne, free⟩
      · have shorter : t.length < n := by rw [← size, List.length_cons]; omega
        obtain ⟨pieces, some_piece, text, result, free⟩ := ih t.length shorter (some c) t rfl
        obtain ⟨piece, others, rfl⟩ := List.exists_cons_of_ne_nil some_piece
        refine ⟨(c :: piece) :: others, List.cons_ne_nil _ _, ?_, ?_, ?_⟩
        · rw [Text.intercalate_cons_head, ← text]
        · rw [replaceFrom_other replacement here, Text.intercalate_cons_head, result]
        · obtain ⟨first, later⟩ := List.forall_mem_cons.1 free
          refine List.forall_mem_cons.2 ⟨fun inside => ?_, later⟩
          rcases List.infix_cons_iff.1 inside with starts | inside
          · have front : c :: piece <+: c :: t := by
              rw [text, ← Text.intercalate_cons_head]
              exact Text.prefix_intercalate _ _ _
            exact here (starts.trans front)
          · exact first inside

theorem replaceAll_of_not_infix (ne : mark ≠ []) {t : Text} (absent : ¬mark <:+: t) :
    replaceAll [.literal mark] replacement t = t := by
  obtain ⟨pieces, some_piece, text, result, -⟩ := exists_pieces replacement ne none t
  rw [replaceAll, result]
  obtain ⟨piece, others, rfl⟩ := List.exists_cons_of_ne_nil some_piece
  cases others with
  | nil => rw [text, List.intercalate_singleton, List.intercalate_singleton]
  | cons second others =>
    rw [text, List.intercalate_cons_cons] at absent
    exact absurd (List.infix_append _ _ _) absent

theorem infix_of_infix_replaceAll (ne : mark ≠ []) {w t : Text} (w_ne : w ≠ [])
    (replacement_ne : replacement ≠ []) (apart : ∀ c ∈ replacement, c ∉ w)
    (h : w <:+: replaceAll [.literal mark] replacement t) : w <:+: t ∧ w ≠ mark := by
  obtain ⟨pieces, -, text, result, free⟩ := exists_pieces replacement ne none t
  rw [replaceAll, result] at h
  obtain ⟨piece, inside, holds⟩ := Text.exists_infix_of_intercalate w_ne replacement_ne apart h
  constructor
  · rw [text]
    exact holds.trans (Text.infix_intercalate_of_mem inside)
  · rintro rfl
    exact free piece inside holds

end Literal

end JspEndpoint.Code
