import JspEndpoint.Code.Check
import JspEndpoint.Proofs.ScanTiles

/-!
Texts that occur in a code one after the other. The check takes each text where it comes first; this
leaves the most room for the texts after it, so it finds an arrangement if there is one. Occurrences
may be sought among characters or among bytes: the first byte of a character is not one of those that
follow, so a text never occurs across characters.
-/

namespace JspEndpoint.Text

theorem boundary_of_firstByte {t : Text} {offset : Nat} {b : UInt8}
    (stands : t.bytes[offset]? = some b) (first : b.IsUTF8FirstByte) : t.Boundary offset := by
  induction t generalizing offset with
  | nil => cases stands
  | cons c t ih =>
    rw [bytes_cons] at stands
    rcases Nat.lt_or_ge offset (String.utf8EncodeChar c).length with inside | behind
    · rw [List.getElem?_append_left inside, List.getElem?_eq_getElem inside,
        Option.some.injEq] at stands
      have zero : offset = 0 := UInt8.isUTF8FirstByte_getElem_utf8EncodeChar.1 (stands ▸ first)
      exact ⟨[], c :: t, rfl, zero.symm⟩
    · rw [List.getElem?_append_right behind] at stands
      obtain ⟨front, back, split, size⟩ := ih stands
      refine ⟨c :: front, back, by rw [split, List.cons_append], ?_⟩
      rw [String.length_utf8EncodeChar] at behind size
      rw [byteLength_cons, size]
      omega

theorem exists_firstByte {t : Text} (ne : t ≠ []) :
    ∃ b, t.bytes[0]? = some b ∧ b.IsUTF8FirstByte := by
  obtain ⟨c, rest, rfl⟩ := List.exists_cons_of_ne_nil ne
  have wide : 0 < (String.utf8EncodeChar c).length := by
    rw [String.length_utf8EncodeChar]
    exact c.utf8Size_pos
  refine ⟨(String.utf8EncodeChar c)[0], ?_, UInt8.isUTF8FirstByte_getElem_zero_utf8EncodeChar⟩
  rw [bytes_cons, List.getElem?_append_left wide, List.getElem?_eq_getElem wide]

theorem prefix_of_bytes_append {s t : Text} {back : List UInt8} (h : s.bytes ++ back = t.bytes) :
    s <+: t := by
  apply List.isPrefix_of_utf8Encode_append_eq_utf8Encode back.toByteArray
  have arrays := congrArg List.toByteArray h
  rwa [List.toByteArray_append] at arrays

theorem byteLength_le_of_isPrefix {s t : Text} (h : s <+: t) : s.byteLength ≤ t.byteLength := by
  obtain ⟨rest, rfl⟩ := h
  rw [byteLength_append]
  omega

theorem isPrefix_of_byteLength_le {s t whole : Text} (first : s <+: whole) (second : t <+: whole)
    (le : s.byteLength ≤ t.byteLength) : s <+: t := by
  rcases List.prefix_or_prefix_of_prefix first second with starts | ⟨rest, rfl⟩
  · exact starts
  · rw [byteLength_append] at le
    have none_left : rest = [] := by
      by_contra ne
      have wide := byteLength_pos ne
      omega
    exact ⟨[], by rw [none_left, List.append_nil, List.append_nil]⟩

theorem cutAt?_nil (t : Text) : cutAt? [] t = some ([], t) := by
  cases t <;> rfl

end JspEndpoint.Text

namespace JspEndpoint.Code

/-- The text occurs in the code, `place` bytes behind its start. -/
def StandsAt (code t : Text) (place : Nat) : Prop :=
  ∃ front back, code = front ++ t ++ back ∧ front.byteLength = place

/-- The bytes of the text stand among those of the code. -/
def BytesAt (code t : Text) (place : Nat) : Prop :=
  place + t.byteLength ≤ code.byteLength ∧
    code.bytes.extract place (place + t.byteLength) = t.bytes

/-- Each text occurs at its place, the first not before `start` and each further one not before the
end of the one before it. -/
inductive Arranged (occurs : Text → Nat → Prop) : Nat → List Text → List Nat → Prop
  | nil {start : Nat} : Arranged occurs start [] []
  | cons {start place : Nat} {t : Text} {ts : List Text} {places : List Nat} :
      start ≤ place → occurs t place → Arranged occurs (place + t.byteLength) ts places →
      Arranged occurs start (t :: ts) (place :: places)

variable {code t : Text} {place : Nat}

theorem bytesAt_of_standsAt (h : StandsAt code t place) : BytesAt code t place := by
  obtain ⟨front, back, rfl, rfl⟩ := h
  refine ⟨?_, Text.bytes_between front t back⟩
  simp only [Text.byteLength_append]
  omega

theorem standsAt_of_bytesAt (ne : t ≠ []) (h : BytesAt code t place) : StandsAt code t place := by
  obtain ⟨bound, same⟩ := h
  rw [List.extract_eq_take_drop, Nat.add_sub_cancel_left] at same
  obtain ⟨b, starts, first⟩ := Text.exists_firstByte ne
  have wide := Text.byteLength_pos ne
  have stands : code.bytes[place]? = some b := by
    rw [← same, List.getElem?_take, if_pos wide, List.getElem?_drop, Nat.add_zero] at starts
    exact starts
  obtain ⟨front, behind, split, size⟩ := Text.boundary_of_firstByte stands first
  have dropped : code.bytes.drop place = behind.bytes := by
    rw [split, Text.bytes_append, ← size, ← Text.length_bytes, List.drop_left]
  have joined : t.bytes ++ behind.bytes.drop t.byteLength = behind.bytes := by
    rw [← same, dropped, List.take_append_drop]
  obtain ⟨back, rfl⟩ := Text.prefix_of_bytes_append joined
  exact ⟨front, back, by rw [split, List.append_assoc], size⟩

theorem Arranged.mono {occurs occurs' : Text → Nat → Prop}
    (weaker : ∀ t place, occurs t place → occurs' t place) {start : Nat} {ts : List Text}
    {places : List Nat} (h : Arranged occurs start ts places) : Arranged occurs' start ts places := by
  induction h with
  | nil => exact .nil
  | cons behind here _ ih => exact .cons behind (weaker _ _ here) ih

theorem cutAt?_of_bytesAt {front rest : Text} (split : code = front ++ rest)
    (behind : front.byteLength ≤ place) (h : BytesAt code t place) :
    ∃ passed after, Text.cutAt? t rest = some (passed, after) ∧
      front.byteLength + passed.byteLength ≤ place := by
  by_cases empty : t = []
  · subst empty
    exact ⟨[], rest, Text.cutAt?_nil rest, behind⟩
  · obtain ⟨before, back, same, rfl⟩ := standsAt_of_bytesAt empty h
    have starts : before <+: code := ⟨t ++ back, by rw [same, List.append_assoc]⟩
    obtain ⟨gap, rfl⟩ := Text.isPrefix_of_byteLength_le ⟨rest, split.symm⟩ starts behind
    have tail : rest = gap ++ t ++ back := by
      rw [split, List.append_assoc, List.append_assoc, List.append_cancel_left_eq] at same
      rw [same, List.append_assoc]
    obtain ⟨passed, after, cut, shorter⟩ := Text.cutAt?_of_occurs t gap back
    have pieces := Text.eq_of_cutAt? cut
    -- both stand at the front of what is searched, and the cut comes first
    have front_cut : passed <+: gap ++ t ++ back := ⟨t ++ after, by rw [pieces, List.append_assoc]⟩
    have front_gap : gap <+: gap ++ t ++ back := ⟨t ++ back, by rw [List.append_assoc]⟩
    have within : passed <+: gap := List.prefix_of_prefix_length_le front_cut front_gap shorter
    refine ⟨passed, after, tail ▸ cut, ?_⟩
    have size := Text.byteLength_le_of_isPrefix within
    rw [Text.byteLength_append]
    omega

theorem inOrder_of_arranged {start : Nat} {ts : List Text} {places : List Nat}
    (h : Arranged (BytesAt code) start ts places) {front rest : Text} (split : code = front ++ rest)
    (early : front.byteLength ≤ start) : inOrder ts rest = true := by
  induction h generalizing front rest with
  | nil => rfl
  | @cons start place t ts places behind here _ ih =>
    obtain ⟨passed, after, cut, bound⟩ := cutAt?_of_bytesAt split (Nat.le_trans early behind) here
    have split' : code = front ++ passed ++ t ++ after := by
      rw [split, Text.eq_of_cutAt? cut]
      simp only [List.append_assoc]
    have early' : (front ++ passed ++ t).byteLength ≤ place + t.byteLength := by
      simp only [Text.byteLength_append]
      omega
    rw [inOrder, cut]
    exact ih split' early'

theorem exists_arranged {ts : List Text} {rest : Text} (h : inOrder ts rest = true) (front : Text) :
    ∃ places, Arranged (StandsAt (front ++ rest)) front.byteLength ts places := by
  induction ts generalizing front rest with
  | nil => exact ⟨[], .nil⟩
  | cons t ts ih =>
    rw [inOrder] at h
    split at h
    · cases h
    · next passed after cut =>
      obtain rfl := Text.eq_of_cutAt? cut
      obtain ⟨places, later⟩ := ih h (front ++ passed ++ t)
      have whole : front ++ passed ++ t ++ after = front ++ (passed ++ t ++ after) := by
        simp only [List.append_assoc]
      rw [whole, Text.byteLength_append] at later
      refine ⟨(front ++ passed).byteLength :: places, .cons ?_ ?_ later⟩
      · exact Text.byteLength_le_of_isPrefix (List.prefix_append front passed)
      · exact ⟨front ++ passed, after, whole.symm, rfl⟩

/-- The check for texts in order passes exactly if they can be arranged at all, whether places are
sought among characters or among bytes. Each cut it makes is at the first occurrence, and what it goes
on with is what the text holds from there, cut between two characters. -/
theorem inOrder_exact (ts : List Text) (code : Text) :
    ((Check.inOrder ts).passes code = true ↔
      ∃ places, Arranged (StandsAt code) 0 ts places) ∧
    ((Check.inOrder ts).passes code = true ↔
      ∃ places, Arranged (BytesAt code) 0 ts places) ∧
    ∀ t rest passed after, Text.cutAt? t rest = some (passed, after) →
      let stop := passed.byteLength + t.byteLength
      StandsAt rest t passed.byteLength ∧
        (∀ place, BytesAt rest t place → passed.byteLength ≤ place) ∧
        rest.Boundary stop ∧ after.bytes = rest.bytes.drop stop := by
  have found : (Check.inOrder ts).passes code = true →
      ∃ places, Arranged (StandsAt code) 0 ts places := fun h => exists_arranged h []
  have toBytes : (∃ places, Arranged (StandsAt code) 0 ts places) →
      ∃ places, Arranged (BytesAt code) 0 ts places := fun ⟨places, arranged⟩ =>
    ⟨places, arranged.mono fun _ _ => bytesAt_of_standsAt⟩
  have missesNone : (∃ places, Arranged (BytesAt code) 0 ts places) →
      (Check.inOrder ts).passes code = true := fun ⟨_, arranged⟩ =>
    inOrder_of_arranged arranged (List.nil_append code).symm (Nat.le_refl 0)
  refine ⟨⟨found, missesNone ∘ toBytes⟩, ⟨toBytes ∘ found, missesNone⟩, ?_⟩
  intro t rest passed after cut
  have pieces := Text.eq_of_cutAt? cut
  refine ⟨⟨passed, after, pieces, rfl⟩, fun place stands => ?_, ?_, ?_⟩
  · obtain ⟨passed', after', cut', bound⟩ :=
      cutAt?_of_bytesAt (List.nil_append rest).symm (Nat.zero_le place) stands
    rw [cut, Option.some.injEq, Prod.mk.injEq] at cut'
    rw [cut'.1]
    simpa using bound
  · exact ⟨passed ++ t, after, pieces, Text.byteLength_append passed t⟩
  · rw [pieces, Text.bytes_append, ← Text.byteLength_append, ← Text.length_bytes, List.drop_left]

example : inOrder ["aba", "", "ba"] "ababa" = true ∧ inOrder ["aba", "aba"] "ababa" = false := by
  decide

end JspEndpoint.Code
