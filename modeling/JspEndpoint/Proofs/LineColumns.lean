import JspEndpoint.Proofs.LineSearch
import Mathlib.Data.Prod.Lex

/-!
Lines and columns of the places between characters. The position of such a place is read off the
text before it: its line breaks give the line, the bytes after the last of them the column. Read
back, a position stands for the one offset that it was made from. Positions are ordered as they are
read, by line and then by column, and a later offset has a later position.
-/

namespace JspEndpoint.Text

/-- What follows the last line break, the whole text if there is none. -/
def lastLine (t : Text) : Text := afterLast (· = '\n') t

theorem cutAtLast?_break_eq_none {t : Text} : cutAtLast? (· = '\n') t = none ↔ '\n' ∉ t := by
  simp only [cutAtLast?_eq_none, decide_eq_false_iff_not]
  exact ⟨fun h found => h '\n' found rfl, fun h c found same => h (same ▸ found)⟩

theorem lastLine_of_notMem {t : Text} (h : '\n' ∉ t) : lastLine t = t := by
  rw [lastLine, afterLast, cutAtLast?_break_eq_none.2 h]

theorem lastLine_cons_of_mem (c : Char) {t : Text} (h : '\n' ∈ t) :
    lastLine (c :: t) = lastLine t := by
  cases later : cutAtLast? (· = '\n') t with
  | none => exact absurd h (cutAtLast?_break_eq_none.1 later)
  | some cut => simp [lastLine, afterLast, cutAtLast?, later]

@[simp] theorem lastLine_break (t : Text) : lastLine ('\n' :: t) = lastLine t := by
  by_cases h : '\n' ∈ t
  · exact lastLine_cons_of_mem '\n' h
  · rw [lastLine_of_notMem h]
    simp [lastLine, afterLast, cutAtLast?, cutAtLast?_break_eq_none.2 h]

theorem lastLine_append_of_mem (s : Text) {t : Text} (h : '\n' ∈ t) :
    lastLine (s ++ t) = lastLine t := by
  induction s with
  | nil => rfl
  | cons c s ih =>
    have later : '\n' ∈ s ++ t := List.mem_append_right s h
    rw [List.cons_append, lastLine_cons_of_mem c later, ih]

theorem lastLine_append_of_notMem (s : Text) {t : Text} (h : '\n' ∉ t) :
    lastLine (s ++ t) = lastLine s ++ t := by
  induction s with
  | nil => simp [lastLine_of_notMem h, lastLine_of_notMem]
  | cons c s ih =>
    rw [List.cons_append]
    by_cases hs : '\n' ∈ s
    · have later : '\n' ∈ s ++ t := List.mem_append_left t hs
      rw [lastLine_cons_of_mem c later, lastLine_cons_of_mem c hs, ih]
    · by_cases hc : c = '\n'
      · rw [hc, lastLine_break, lastLine_break, ih]
      · have whole : '\n' ∉ c :: s := by simp [hs, Ne.symm hc]
        have longer : '\n' ∉ c :: (s ++ t) := by simp [hs, h, Ne.symm hc]
        rw [lastLine_of_notMem longer, lastLine_of_notMem whole, List.cons_append]

theorem splitOn_ne_nil (separator : Char) (t : Text) : splitOn separator t ≠ [] := by
  cases t with
  | nil => simp [splitOn]
  | cons c t =>
    rw [splitOn]
    split
    · simp
    · split <;> simp

theorem lines_append_lastLine (front back : Text) :
    lines ((splitOn '\n' (front ++ back)).take (front.count '\n')) ++ lastLine front = front := by
  induction front with
  | nil => simp [lines, lastLine_of_notMem]
  | cons c front ih =>
    obtain ⟨line, others, split⟩ := List.exists_cons_of_ne_nil (splitOn_ne_nil '\n' (front ++ back))
    rw [split] at ih
    by_cases hc : c = '\n'
    · subst hc
      rw [List.cons_append, splitOn, if_pos rfl, List.count_cons_self, List.take_succ_cons,
        lastLine_break, split]
      simpa [lines] using ih
    · have head : splitOn '\n' (c :: (front ++ back)) = (c :: line) :: others := by
        rw [splitOn, if_neg hc, split]
      rw [List.cons_append, head, List.count_cons_of_ne hc]
      by_cases h : '\n' ∈ front
      · -- an earlier line ends within `front`, and it is the one that `c` belongs to
        obtain ⟨n, count⟩ := Nat.exists_eq_succ_of_ne_zero
          (Nat.ne_of_gt (List.count_pos_iff.2 h))
        rw [count, List.take_succ_cons] at ih ⊢
        rw [lastLine_cons_of_mem c h]
        simpa [lines] using ih
      · have whole : '\n' ∉ c :: front := by simp [h, Ne.symm hc]
        rw [List.count_eq_zero_of_not_mem h, lastLine_of_notMem whole]
        simp [lines]

end JspEndpoint.Text

namespace JspEndpoint.Template

theorem breaksFrom_append (here : Nat) (s t : Text) :
    breaksFrom here (s ++ t) = breaksFrom here s ++ breaksFrom (here + s.byteLength) t := by
  induction s generalizing here with
  | nil => rfl
  | cons c s ih =>
    rw [List.cons_append, breaksFrom, breaksFrom, ih, Text.byteLength_cons, ← Nat.add_assoc]
    split <;> rfl

theorem bounds_of_mem_breaksFrom {here o : Nat} {t : Text} (h : o ∈ breaksFrom here t) :
    here < o ∧ o ≤ here + t.byteLength := by
  induction t generalizing here with
  | nil => cases h
  | cons c t ih =>
    have wide := c.utf8Size_pos
    rw [Text.byteLength_cons]
    by_cases hc : c = '\n'
    · rw [breaksFrom, if_pos hc] at h
      rcases List.mem_cons.1 h with rfl | later
      · omega
      · have bounds := ih later
        omega
    · rw [breaksFrom, if_neg hc] at h
      have bounds := ih h
      omega

@[simp] theorem length_breaksFrom (here : Nat) (t : Text) :
    (breaksFrom here t).length = t.count '\n' := by
  induction t generalizing here with
  | nil => rfl
  | cons c t ih => by_cases hc : c = '\n' <;> simp [breaksFrom, hc, ih]

theorem getLastD_breaksFrom (here : Nat) (t : Text) :
    (breaksFrom here t).getLastD here + (Text.lastLine t).byteLength = here + t.byteLength := by
  induction t generalizing here with
  | nil => rfl
  | cons c t ih =>
    have next := ih (here + c.utf8Size)
    by_cases hc : c = '\n'
    · rw [breaksFrom, if_pos hc, List.getLastD_cons, hc, Text.lastLine_break]
      rw [hc] at next
      rw [next, Text.byteLength_cons]
      omega
    · rw [breaksFrom, if_neg hc]
      by_cases h : '\n' ∈ t
      · have some_break : breaksFrom (here + c.utf8Size) t ≠ [] := by
          rw [← List.length_pos_iff, length_breaksFrom]
          exact List.count_pos_iff.2 h
        obtain ⟨o, others, split⟩ := List.exists_cons_of_ne_nil some_break
        rw [split, List.getLastD_cons] at next ⊢
        rw [Text.lastLine_cons_of_mem c h, next, Text.byteLength_cons]
        omega
      · have no_break : breaksFrom (here + c.utf8Size) t = [] := by
          rw [← List.length_eq_zero_iff, length_breaksFrom, List.count_eq_zero_of_not_mem h]
        have whole : '\n' ∉ c :: t := by simp [h, Ne.symm hc]
        rw [no_break, Text.lastLine_of_notMem whole]
        rfl

theorem breaksFrom_ascending (here : Nat) (t : Text) : (breaksFrom here t).Pairwise (· < ·) := by
  induction t generalizing here with
  | nil => exact .nil
  | cons c t ih =>
    rw [breaksFrom]
    split
    · exact .cons (fun o ho => (bounds_of_mem_breaksFrom ho).1) (ih _)
    · exact ih _

theorem lineStarts_ascending (source : Text) : (lineStarts source).Pairwise (· < ·) :=
  .cons (fun _ ho => (bounds_of_mem_breaksFrom ho).1) (breaksFrom_ascending 0 source)

theorem lineStarts_filter (front back : Text) :
    (lineStarts (front ++ back)).filter (· ≤ front.byteLength) = lineStarts front := by
  have before : (breaksFrom 0 front).filter (· ≤ front.byteLength) = breaksFrom 0 front := by
    rw [List.filter_eq_self]
    intro o ho
    have bounds := bounds_of_mem_breaksFrom ho
    simp only [decide_eq_true_eq]
    omega
  have after : (breaksFrom (0 + front.byteLength) back).filter (· ≤ front.byteLength) = [] := by
    rw [List.filter_eq_nil_iff]
    intro o ho
    have bounds := bounds_of_mem_breaksFrom ho
    simp only [decide_eq_true_eq]
    omega
  rw [lineStarts, breaksFrom_append, List.filter_cons_of_pos (by simp), List.filter_append, before,
    after, List.append_nil, lineStarts]

namespace Position

theorem ofOffset_search (source : Text) (offset : Nat) :
    let sought := search (lineStarts source).toArray offset
    (sought = .found sought.floor ∨ sought = .missing (sought.floor + 1)) ∧
      ∃ start, Sought.IsFloor (lineStarts source) offset sought.floor start ∧
        ofOffset source offset = ⟨sought.floor + 1, offset - start⟩ := by
  intro sought
  have ascending := lineStarts_ascending source
  obtain ⟨answer, start, isFloor⟩ :=
    (Sought.search_answers ascending offset).isFloor ascending rfl
  refine ⟨answer, start, isFloor, ?_⟩
  have read : (lineStarts source).toArray.getD sought.floor 0 = start := by
    rw [Array.getD_eq_getD_getElem?, List.getElem?_toArray, isFloor.stands, Option.getD_some]
  rw [ofOffset, read]

theorem ofOffset_eq (source : Text) (offset : Nat) :
    ofOffset source offset =
      ⟨((lineStarts source).filter (· ≤ offset)).length,
        offset - ((lineStarts source).filter (· ≤ offset)).getLastD 0⟩ := by
  obtain ⟨-, start, isFloor, position⟩ := ofOffset_search source offset
  have bound := (List.getElem?_eq_some_iff.1 isFloor.stands).1
  have last : ((lineStarts source).take
      ((search (lineStarts source).toArray offset).floor + 1)).getLast? = some start := by
    rw [List.take_add_one, isFloor.stands, Option.toList_some, List.getLast?_concat]
  rw [position, isFloor.filter_eq (lineStarts_ascending source), List.getLastD_eq_getLast?, last,
    List.length_take, Nat.min_eq_left bound, Option.getD_some]

theorem ofOffset_append (front back : Text) :
    ofOffset (front ++ back) front.byteLength =
      ⟨front.count '\n' + 1, (Text.lastLine front).byteLength⟩ := by
  have column := getLastD_breaksFrom 0 front
  rw [ofOffset_eq, lineStarts_filter, lineStarts, List.getLastD_cons]
  simp only [List.length_cons, length_breaksFrom, mk.injEq, true_and]
  omega

/-- The offset at which a line starts, lines being counted from one. -/
def lineStart (source : Text) (line : Nat) : Nat :=
  (Text.lines ((Text.splitOn '\n' source).take (line - 1))).byteLength

/-- The offset that a position stands for. -/
def offsetIn (source : Text) (p : Position) : Nat := lineStart source p.line + p.column

theorem offsetIn_ofOffset (front back : Text) :
    (ofOffset (front ++ back) front.byteLength).offsetIn (front ++ back) = front.byteLength := by
  have pieces := congrArg Text.byteLength (Text.lines_append_lastLine front back)
  rw [Text.byteLength_append] at pieces
  rw [ofOffset_append, offsetIn, lineStart, Nat.add_sub_cancel, pieces]

def key (p : Position) : ℕ ×ₗ ℕ := toLex (p.line, p.column)

theorem key_injective : Function.Injective key := by
  intro p q same
  cases p
  cases q
  simpa [key] using same

instance : PartialOrder Position := PartialOrder.lift key key_injective

theorem lt_iff {p q : Position} :
    p < q ↔ p.line < q.line ∨ p.line = q.line ∧ p.column < q.column :=
  Prod.Lex.lt_iff

/-- This holds of every offset, also of one inside a character or past the end. -/
theorem ofOffset_strictMono (source : Text) : StrictMono (ofOffset source) := by
  intro first second earlier
  let upto (offset : Nat) : List Nat := (lineStarts source).filter (· ≤ offset)
  have fewer : (upto first).Sublist (upto second) := by
    have twice : upto first = (upto second).filter (· ≤ first) := by
      simp only [upto, List.filter_filter]
      refine List.filter_congr fun start _ => ?_
      simp only [← Bool.decide_and, decide_eq_decide]
      omega
    rw [twice]
    exact List.filter_sublist
  have last_le : (upto first).getLastD 0 ≤ first := by
    rcases List.mem_cons.1 (List.getLastD_mem_cons (l := upto first) (a := 0)) with zero | inside
    · omega
    · simpa using (List.mem_filter.1 inside).2
  rw [lt_iff, ofOffset_eq, ofOffset_eq]
  rcases Nat.lt_or_ge (upto first).length (upto second).length with lines | same
  · exact .inl lines
  · have all := fewer.eq_of_length_le same
    refine .inr ⟨congrArg List.length all, ?_⟩
    change first - (upto first).getLastD 0 < second - (upto second).getLastD 0
    rw [← all]
    omega

end Position

end JspEndpoint.Template
