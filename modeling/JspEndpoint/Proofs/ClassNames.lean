import JspEndpoint.Endpoint.Name
import JspEndpoint.Proofs.LiteralPatterns

/-!
Marks in class names. Case conversion makes letters of letters: a mark that no letter becomes stands
in the converted text only if it stood there before. So a class name holds such a mark only if the
route does.
-/

namespace JspEndpoint.Text

section LastMark

variable {marks : Char → Bool} {t : Text}

theorem afterLast_of_free (free : ∀ c ∈ t, marks c = false) : afterLast marks t = t := by
  rw [afterLast, cutAtLast?_eq_none.2 free]

theorem afterLast_append (front : Text) {m : Char} {rest : Text} (marked : marks m = true)
    (free : ∀ c ∈ rest, marks c = false) : afterLast marks (front ++ m :: rest) = rest := by
  rw [afterLast, cutAtLast?_append front marked free]

theorem lastMark_cases (marks : Char → Bool) (t : Text) :
    (∀ c ∈ t, marks c = false) ∨
      ∃ front m rest, t = front ++ m :: rest ∧ marks m = true ∧ ∀ c ∈ rest, marks c = false := by
  cases cut : cutAtLast? marks t with
  | none => exact .inl (cutAtLast?_eq_none.1 cut)
  | some pieces =>
    obtain ⟨m, marked, split, free⟩ := eq_of_cutAtLast? cut
    exact .inr ⟨pieces.1, m, pieces.2, split, marked, free⟩

theorem free_afterLast : ∀ c ∈ afterLast marks t, marks c = false := by
  rcases lastMark_cases marks t with free | ⟨front, m, rest, rfl, marked, free⟩
  · rwa [afterLast_of_free free]
  · rwa [afterLast_append front marked free]

theorem mem_of_mem_afterLast {c : Char} (h : c ∈ afterLast marks t) : c ∈ t := by
  rcases lastMark_cases marks t with free | ⟨front, m, rest, rfl, marked, free⟩
  · rwa [afterLast_of_free free] at h
  · rw [afterLast_append front marked free] at h
    exact List.mem_append_right front (List.mem_cons_of_mem m h)

theorem mem_of_mem_beforeLast {c : Char} (h : c ∈ beforeLast marks t) : c ∈ t := by
  unfold beforeLast at h
  split at h
  · next cut =>
    obtain ⟨m, -, rfl, -⟩ := eq_of_cutAtLast? cut
    exact List.mem_append_left _ h
  · exact h

theorem getLast?_splitOn (separator : Char) (t : Text) :
    (splitOn separator t).getLast? = some (afterLast (· = separator) t) := by
  have single {rest : Text} (free : ∀ c ∈ rest, decide (c = separator) = false) :
      List.splitOn separator rest = [rest] :=
    List.splitOn_eq_singleton fun found => by simpa using free separator found
  rw [splitOn_eq]
  rcases lastMark_cases (· = separator) t with free | ⟨front, m, rest, rfl, marked, free⟩
  · rw [single free, afterLast_of_free free]
    rfl
  · obtain rfl : m = separator := by simpa using marked
    rw [List.splitOn_append_cons_self, single free, afterLast_append front marked free]
    simp

theorem intercalate_splitOn (separator : Char) (t : Text) :
    [separator].intercalate (splitOn separator t) = t := by
  rw [splitOn_eq]
  exact List.intercalate_splitOn separator

theorem mem_of_mem_splitOn {separator c : Char} {piece : Text} (h : piece ∈ splitOn separator t)
    (found : c ∈ piece) : c ∈ t := by
  have inside : piece <:+: t := intercalate_splitOn separator t ▸ infix_intercalate_of_mem h
  exact inside.subset found

end LastMark

section Caseless

/-- Whether some code point of the run moves to the given one. -/
def CaseRun.reaches (run : CaseRun) (n : Nat) : Bool := run.covers (n - run.shift).toNat

/-- A character that no other one becomes in upper or in lower case. -/
structure Caseless (m : Char) : Prop where
  runs : ∀ run ∈ upperRuns ++ lowerRuns, run.reaches m.toNat = false
  expansions : ∀ e ∈ upperExpansions ++ lowerExpansions, m.toNat ∉ e.2
  code : m.toNat ≠ 0
  finalSigma : m ≠ 'ς'
  sigma : m ≠ 'σ'

theorem caseless_backslash : Caseless '\\' := by
  constructor <;> decide +kernel

variable {m : Char} {runs : List CaseRun} {expansions : List (Nat × List Nat)} {t : Text}

theorem toNat_eq_of_ofNat {n : Nat} (some_code : m.toNat ≠ 0) (h : Char.ofNat n = m) :
    m.toNat = n := by
  subst h
  by_cases valid : n.isValidChar
  · rw [Char.ofNat, dif_pos valid]
    rfl
  · rw [Char.ofNat, dif_neg valid] at some_code
    exact absurd rfl some_code

namespace Caseless

theorem eq_of_moveCase (h : Caseless m) (runs_sub : runs ⊆ upperRuns ++ lowerRuns) {c : Char}
    (moved : moveCase runs c = m) : m = c := by
  unfold moveCase at moved
  split at moved
  · next run found =>
    have code := toNat_eq_of_ofNat h.code moved
    have some_code := h.code
    have covered : run.covers c.toNat := by simpa using List.find?_some found
    -- the code of `m` is not zero, so nothing was cut off when the shift was added
    have back : (m.toNat - run.shift).toNat = c.toNat := by omega
    have reached : run.reaches m.toNat = true := by rw [CaseRun.reaches, back, covered]
    rw [h.runs run (runs_sub (List.mem_of_find?_eq_some found))] at reached
    cases reached
  · exact moved.symm

theorem eq_of_mem_changeCase (h : Caseless m) (runs_sub : runs ⊆ upperRuns ++ lowerRuns)
    (expansions_sub : expansions ⊆ upperExpansions ++ lowerExpansions) {c : Char}
    (found : m ∈ changeCase expansions runs c) : m = c := by
  unfold changeCase at found
  split at found
  · next codes listed =>
    obtain ⟨code, inside, made⟩ := List.mem_map.1 found
    obtain ⟨front, back, split, -⟩ := List.lookup_eq_some_iff.1 listed
    have entry : (c.toNat, codes) ∈ expansions := by simp [split]
    rw [← toNat_eq_of_ofNat h.code made] at inside
    exact absurd inside (h.expansions _ (expansions_sub entry))
  · exact h.eq_of_moveCase runs_sub (List.mem_singleton.1 found).symm

theorem eq_of_mem_upperChar (h : Caseless m) {c : Char} (found : m ∈ upperChar c) : m = c :=
  h.eq_of_mem_changeCase (List.subset_append_left _ _) (List.subset_append_left _ _) found

theorem eq_of_mem_lowerChar (h : Caseless m) {c : Char} (found : m ∈ lowerChar c) : m = c :=
  h.eq_of_mem_changeCase (List.subset_append_right _ _) (List.subset_append_right _ _) found

theorem mem_of_mem_lowerAfter (h : Caseless m) {cased : Bool} (found : m ∈ lowerAfter cased t) :
    m ∈ t := by
  induction t generalizing cased with
  | nil => exact found
  | cons c t ih =>
    rw [lowerAfter] at found
    rcases List.mem_append.1 found with here | later
    · split at here
      · -- a sigma, final or not
        have made := List.mem_singleton.1 here
        split at made
        · exact absurd made h.finalSigma
        · exact absurd made h.sigma
      · rw [h.eq_of_mem_lowerChar here]
        exact List.mem_cons_self
    · exact List.mem_cons_of_mem c (ih later)

theorem mem_of_mem_capitalize (h : Caseless m) (found : m ∈ capitalize t) : m ∈ t := by
  cases t with
  | nil => exact found
  | cons c t =>
    rcases List.mem_append.1 found with first | later
    · rw [h.eq_of_mem_upperChar first]
      exact List.mem_cons_self
    · exact List.mem_cons_of_mem c (h.mem_of_mem_lowerAfter later)

end Caseless

end Caseless

end JspEndpoint.Text

namespace JspEndpoint.Endpoint

open JspEndpoint.Text

variable {m : Char}

theorem mem_of_mem_camelize (h : Caseless m) {name : Text} (found : m ∈ camelize name) :
    m ∈ name := by
  unfold camelize at found
  split at found
  · obtain ⟨piece, kept, inside⟩ := List.mem_flatMap.1 found
    exact mem_of_mem_splitOn (List.mem_filter.1 kept).1 (h.mem_of_mem_capitalize inside)
  · exact found

theorem mem_of_mem_classNameOf (h : Caseless m) {route : Text} (found : m ∈ classNameOf route) :
    m ∈ route :=
  mem_of_mem_afterLast (mem_of_mem_beforeLast (mem_of_mem_camelize h found))

end JspEndpoint.Endpoint
