import JspEndpoint.Template.Position
import Mathlib.Data.List.Basic

/-!
Search in an ascending row of numbers. The answer is exact: a number that stands in the row is found
where it stands, any other is put between the smaller and the greater ones. So a row that starts at
zero always has a last number up to the one sought, and the search leads to it.
-/

namespace JspEndpoint.Template

namespace Sought

/-- What a search for `n` has to answer. -/
def Answers (row : List Nat) (n : Nat) : Sought → Prop
  | found i => row[i]? = some n
  | missing i =>
    i ≤ row.length ∧ (∀ j m, j < i → row[j]? = some m → m < n) ∧
      ∀ j m, i ≤ j → row[j]? = some m → n < m

/-- The number at an index is the last one of the row that is not greater than `n`. -/
structure IsFloor (row : List Nat) (n index : Nat) (m : Nat) : Prop where
  stands : row[index]? = some m
  le : m ≤ n
  after : ∀ j k, index < j → row[j]? = some k → n < k

variable {row : List Nat} {n : Nat}

theorem lt_of_ascending (ascending : row.Pairwise (· < ·)) {i j k m : Nat} (earlier : i < j)
    (first : row[i]? = some k) (second : row[j]? = some m) : k < m := by
  obtain ⟨hi, rfl⟩ := List.getElem?_eq_some_iff.1 first
  obtain ⟨hj, rfl⟩ := List.getElem?_eq_some_iff.1 second
  exact List.pairwise_iff_getElem.1 ascending i j hi hj earlier

theorem getElem?_toArray {i : Nat} (inside : i < row.toArray.size) :
    row[i]? = some row.toArray[i] := by
  rw [List.getElem_toArray, List.getElem?_eq_getElem]

theorem searchBetween_answers (ascending : row.Pairwise (· < ·)) {low high : Nat}
    (inside : high ≤ row.toArray.size) (ordered : low ≤ high)
    (below : ∀ j m, j < low → row[j]? = some m → m < n)
    (above : ∀ j m, high ≤ j → row[j]? = some m → n < m) :
    (searchBetween row.toArray n low high inside).Answers row n := by
  -- The search keeps what it knows: numbers before the range are smaller, those after it greater.
  fun_induction searchBetween row.toArray n low high inside with
  | case1 low high inside left middle within here =>
    rw [Answers, ← here, getElem?_toArray within]
  | case2 low high inside left middle within other smaller ih =>
    have stands := getElem?_toArray within
    refine ih (by omega) (fun j m before at_j => ?_) above
    rcases Nat.lt_or_eq_of_le (Nat.le_of_lt_succ before) with earlier | rfl
    · exact Nat.lt_trans (lt_of_ascending ascending earlier at_j stands) smaller
    · rwa [Option.some.inj (at_j.symm.trans stands)]
  | case3 low high inside left middle within other not_smaller ih =>
    have stands := getElem?_toArray within
    have greater : n < row.toArray[middle] := by omega
    refine ih (by omega) below (fun j m behind at_j => ?_)
    rcases Nat.lt_or_eq_of_le behind with later | rfl
    · exact Nat.lt_trans greater (lt_of_ascending ascending later stands at_j)
    · rwa [Option.some.inj (at_j.symm.trans stands)]
  | case4 low high inside empty =>
    have same : low = high := by omega
    subst same
    exact ⟨inside, below, above⟩

theorem search_answers (ascending : row.Pairwise (· < ·)) (n : Nat) :
    (search row.toArray n).Answers row n := by
  apply searchBetween_answers ascending (Nat.le_refl _) (Nat.zero_le _)
  · intro j m before
    exact absurd before (Nat.not_lt_zero j)
  · intro j m behind at_j
    rw [List.getElem?_eq_none behind] at at_j
    cases at_j

theorem Answers.isFloor (ascending : row.Pairwise (· < ·)) (zero : row[0]? = some 0)
    {sought : Sought} (h : sought.Answers row n) :
    (sought = .found sought.floor ∨ sought = .missing (sought.floor + 1)) ∧
      ∃ m, IsFloor row n sought.floor m := by
  cases sought with
  | found i =>
    refine ⟨.inl rfl, n, h, Nat.le_refl n, fun j k later at_j => ?_⟩
    exact lt_of_ascending ascending later h at_j
  | missing i =>
    obtain ⟨bound, below, above⟩ := h
    -- zero is not greater than any number, so something stands before the place found
    have positive : 0 < i := by
      by_contra none_before
      have greater := above 0 0 (by omega) zero
      omega
    have place : i - 1 < row.length := by omega
    have stands : row[i - 1]? = some row[i - 1] := List.getElem?_eq_getElem place
    refine ⟨.inr ?_, row[i - 1], stands, ?_, fun j k later at_j => ?_⟩
    · rw [floor, Nat.sub_add_cancel positive]
    · exact Nat.le_of_lt (below (i - 1) _ (by omega) stands)
    · refine above j k ?_ at_j
      rw [floor] at later
      omega

namespace IsFloor

variable {i m : Nat}

theorem le_of_mem_take (ascending : row.Pairwise (· < ·)) (h : IsFloor row n i m) {k : Nat}
    (inside : k ∈ row.take (i + 1)) : k ≤ m := by
  obtain ⟨j, at_j⟩ := List.getElem?_of_mem inside
  rw [List.getElem?_take] at at_j
  split at at_j
  · next before =>
    rcases Nat.lt_or_eq_of_le (Nat.le_of_lt_succ before) with earlier | rfl
    · exact Nat.le_of_lt (lt_of_ascending ascending earlier at_j h.stands)
    · exact Nat.le_of_eq (Option.some.inj (at_j.symm.trans h.stands))
  · cases at_j

theorem filter_eq (ascending : row.Pairwise (· < ·)) (h : IsFloor row n i m) :
    row.filter (· ≤ n) = row.take (i + 1) := by
  have kept : (row.take (i + 1)).filter (· ≤ n) = row.take (i + 1) := by
    rw [List.filter_eq_self]
    intro k inside
    exact decide_eq_true (Nat.le_trans (h.le_of_mem_take ascending inside) h.le)
  have dropped : (row.drop (i + 1)).filter (· ≤ n) = [] := by
    rw [List.filter_eq_nil_iff]
    intro k inside
    obtain ⟨j, at_j⟩ := List.getElem?_of_mem inside
    rw [List.getElem?_drop] at at_j
    have greater := h.after (i + 1 + j) k (by omega) at_j
    simpa using greater
  calc row.filter (· ≤ n)
      = (row.take (i + 1) ++ row.drop (i + 1)).filter (· ≤ n) := by rw [List.take_append_drop]
    _ = row.take (i + 1) := by rw [List.filter_append, kept, dropped, List.append_nil]

theorem le_of_mem_filter (ascending : row.Pairwise (· < ·)) (h : IsFloor row n i m) {k : Nat}
    (inside : k ∈ row.filter (· ≤ n)) : k ≤ m :=
  h.le_of_mem_take ascending (h.filter_eq ascending ▸ inside)

end IsFloor

end Sought

end JspEndpoint.Template
