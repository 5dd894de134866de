import JspEndpoint.Proofs.LineColumns
import JspEndpoint.Proofs.ScanTiles

/-!
Positions in terms of the bytes of a template. The line of an offset counts the line break bytes
before it, the column is its distance from the last of them. This holds of every offset: between two
characters, inside one and past the end. The position is read from the line starts by a search that
never leaves them, and it gives the offset back.
-/

namespace JspEndpoint.Text

def breakByte : UInt8 := 10

theorem ofNat_ne_breakByte {n : Nat} (low : 128 ≤ n) (high : n < 256) :
    breakByte ≠ UInt8.ofNat n := by
  intro same
  have values := congrArg UInt8.toNat same
  rw [UInt8.toNat_ofNat_of_lt' high] at values
  simp [breakByte] at values
  omega

theorem breakByte_notMem_encoding {c : Char} (other : c ≠ '\n') :
    breakByte ∉ String.utf8EncodeChar c := by
  have high : ∀ n, 128 ≤ n → n < 256 → breakByte ≠ UInt8.ofNat n := fun _ => ofNat_ne_breakByte
  unfold String.utf8EncodeChar
  dsimp only
  by_cases one : c.val.toNat ≤ 127
  · rw [if_pos one, List.mem_singleton]
    intro same
    have values := congrArg UInt8.toNat same
    rw [UInt8.toNat_ofNat_of_lt' (Nat.lt_of_le_of_lt one (by decide))] at values
    exact other (Char.ext (UInt32.toNat_inj.1 values.symm))
  · rw [if_neg one]
    split
    · grind
    · split <;> grind

end JspEndpoint.Text

namespace JspEndpoint.Template

open JspEndpoint.Text

/-- Offsets right behind the line break bytes of an encoding that starts at offset `here`. -/
def breaksIn (here : Nat) : List UInt8 → List Nat
  | [] => []
  | b :: bytes =>
    if b = breakByte then (here + 1) :: breaksIn (here + 1) bytes else breaksIn (here + 1) bytes

theorem breaksIn_append_of_notMem (here : Nat) {front : List UInt8} (free : breakByte ∉ front)
    (back : List UInt8) : breaksIn here (front ++ back) = breaksIn (here + front.length) back := by
  induction front generalizing here with
  | nil => rfl
  | cons b front ih =>
    rw [List.mem_cons, not_or] at free
    rw [List.cons_append, breaksIn, if_neg (Ne.symm free.1), ih (here + 1) free.2, List.length_cons]
    congr 1
    omega

theorem breaksFrom_eq (here : Nat) (t : Text) : breaksFrom here t = breaksIn here t.bytes := by
  induction t generalizing here with
  | nil => rfl
  | cons c t ih =>
    rw [breaksFrom, ih, bytes_cons]
    by_cases hc : c = '\n'
    · subst hc
      rw [if_pos rfl]
      rfl
    · rw [if_neg hc, breaksIn_append_of_notMem here (breakByte_notMem_encoding hc),
        String.length_utf8EncodeChar]

theorem mem_breaksIn {here o : Nat} {bytes : List UInt8} :
    o ∈ breaksIn here bytes ↔ ∃ p, bytes[p]? = some breakByte ∧ o = here + p + 1 := by
  induction bytes generalizing here with
  | nil => simp [breaksIn]
  | cons b bytes ih =>
    have shifted : (∃ p, (b :: bytes)[p]? = some breakByte ∧ o = here + p + 1) ↔
        (b = breakByte ∧ o = here + 1) ∨
          ∃ p, bytes[p]? = some breakByte ∧ o = here + 1 + p + 1 := by
      constructor
      · rintro ⟨_ | p, found, rfl⟩
        · exact .inl ⟨Option.some.inj found, rfl⟩
        · exact .inr ⟨p, found, by omega⟩
      · rintro (⟨rfl, rfl⟩ | ⟨p, found, rfl⟩)
        · exact ⟨0, rfl, rfl⟩
        · exact ⟨p + 1, found, by omega⟩
    rw [shifted, ← ih, breaksIn]
    split
    · next here_too => simp [here_too]
    · next other => simp [other]

theorem length_filter_breaksIn (here k : Nat) (bytes : List UInt8) :
    ((breaksIn here bytes).filter (· ≤ here + k)).length = (bytes.take k).count breakByte := by
  induction bytes generalizing here k with
  | nil => simp [breaksIn]
  | cons b bytes ih =>
    cases k with
    | zero =>
      rw [List.take_zero, List.count_nil, List.length_eq_zero_iff, List.filter_eq_nil_iff]
      intro o found
      obtain ⟨p, -, rfl⟩ := mem_breaksIn.1 found
      simp only [decide_eq_true_eq]
      omega
    | succ k =>
      have later := ih (here + 1) k
      rw [Nat.add_assoc, Nat.add_comm 1 k] at later
      rw [List.take_succ_cons, breaksIn]
      split
      · next same =>
        rw [List.filter_cons_of_pos (by simp), List.length_cons, later, same, List.count_cons_self]
      · next other => rw [later, List.count_cons_of_ne other]

/-- A line starts at the first byte or right behind a line break byte. That of an offset starts at the
offset or before it, with no line break byte between. -/
structure StartsLine (bytes : List UInt8) (offset start : Nat) : Prop where
  le : start ≤ offset
  opens : start = 0 ∨ ∃ p, bytes[p]? = some breakByte ∧ start = p + 1
  unbroken : ∀ p, start ≤ p → p < offset → bytes[p]? ≠ some breakByte

theorem startsLine_of_isFloor {source : Text} {offset index start : Nat}
    (h : Sought.IsFloor (lineStarts source) offset index start) :
    StartsLine source.bytes offset start := by
  refine ⟨h.le, ?_, fun p behind before found => ?_⟩
  · rcases List.mem_cons.1 (List.mem_of_getElem? h.stands) with zero | later
    · exact .inl zero
    · rw [breaksFrom_eq, mem_breaksIn] at later
      obtain ⟨p, found, rfl⟩ := later
      exact .inr ⟨p, found, by omega⟩
  · -- the line behind this byte would start later, but still not behind the offset
    have next : p + 1 ∈ (lineStarts source).filter (· ≤ offset) := by
      refine List.mem_filter.2 ⟨List.mem_cons_of_mem 0 ?_, decide_eq_true before⟩
      rw [breaksFrom_eq, mem_breaksIn]
      exact ⟨p, found, by omega⟩
    have last := h.le_of_mem_filter (lineStarts_ascending source) next
    omega

namespace Position

theorem line_ofOffset (source : Text) (offset : Nat) :
    (ofOffset source offset).line = 1 + (source.bytes.take offset).count breakByte := by
  have counted := length_filter_breaksIn 0 offset source.bytes
  rw [Nat.zero_add] at counted
  rw [ofOffset_eq, lineStarts, List.filter_cons_of_pos (by simp), List.length_cons, breaksFrom_eq,
    counted, Nat.add_comm]

/-- Every offset has its line and column by the bytes before it, found without leaving the row of line
starts. Later offsets have later positions, and a position gives its offset back. -/
theorem ofOffset_exact (source : Text) :
    (∀ offset,
      let sought := search (lineStarts source).toArray offset
      (sought = .found sought.floor ∨ sought = .missing (sought.floor + 1)) ∧
      ∃ start, (lineStarts source)[sought.floor]? = some start ∧
        StartsLine source.bytes offset start ∧
        ofOffset source offset =
          ⟨1 + (source.bytes.take offset).count breakByte, offset - start⟩) ∧
    StrictMono (ofOffset source) ∧
    Function.Injective (ofOffset source) ∧
    ∀ offset, ∃ start,
      (lineStarts source)[(ofOffset source offset).line - 1]? = some start ∧
      start + (ofOffset source offset).column = offset := by
  have ordered := ofOffset_strictMono source
  refine ⟨fun offset => ?_, ordered, ordered.injective, fun offset => ?_⟩
  · obtain ⟨answer, start, isFloor, position⟩ := ofOffset_search source offset
    refine ⟨answer, start, isFloor.stands, startsLine_of_isFloor isFloor, ?_⟩
    rw [← line_ofOffset, position]
  · obtain ⟨-, start, isFloor, position⟩ := ofOffset_search source offset
    refine ⟨start, ?_, ?_⟩
    · rw [position, Nat.add_sub_cancel, isFloor.stands]
    · rw [position, Nat.add_sub_cancel' isFloor.le]

example : ofOffset "é\n\nx" 9 = ⟨3, 5⟩ := by cbv

end Position

end JspEndpoint.Template
