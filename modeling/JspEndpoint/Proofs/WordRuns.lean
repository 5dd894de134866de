import JspEndpoint.Text.Blank
import JspEndpoint.Text.Word
import Mathlib.Data.List.SplitBy

/-!
The words of a text. A text falls into runs of word characters and of other characters in turn, and
it does so in one way. A word with no word character beside it is one of the runs. Blanks are no word
characters.
-/

namespace JspEndpoint.Text

/-- Runs of word characters and runs of other characters in turn. The flag tells which come first. -/
def Alternates (word : Bool) : List Text → Prop
  | [] => True
  | run :: rest => run ≠ [] ∧ (∀ c ∈ run, isWord c = word) ∧ Alternates (!word) rest

/-- The pieces are the text, cut wherever a word character stands beside another one. -/
def CutIntoRuns (t : Text) (pieces : List Text) : Prop :=
  pieces.flatten = t ∧ ∃ word, Alternates word pieces

def runs (t : Text) : List Text := t.splitBy fun c d => isWord c == isWord d

namespace Alternates

variable {word : Bool} {pieces : List Text}

theorem head_flatten (h : Alternates word pieces) :
    ∀ c ∈ pieces.flatten.head?, isWord c = word := by
  cases pieces with
  | nil => simp
  | cons run rest =>
    obtain ⟨ne, uniform, -⟩ := h
    obtain ⟨d, more, rfl⟩ := List.exists_cons_of_ne_nil ne
    intro c first
    obtain rfl : d = c := by simpa using first
    exact uniform d List.mem_cons_self

theorem drop {front back : List Text} (h : Alternates word (front ++ back)) :
    ∃ next, Alternates next back ∧ ∀ c ∈ front.flatten.getLast?, isWord c = !next := by
  induction front generalizing word with
  | nil => exact ⟨word, h, by simp⟩
  | cons run rest ih =>
    obtain ⟨-, uniform, later⟩ := h
    obtain ⟨next, follows, last⟩ := ih later
    by_cases done : rest.flatten = []
    · cases rest with
      | nil =>
        refine ⟨!word, later, fun c here => ?_⟩
        rw [Bool.not_not]
        exact uniform c (List.mem_of_getLast? (by simpa using here))
      | cons second rest =>
        obtain ⟨ne, -⟩ := later
        simp [ne] at done
    · refine ⟨next, follows, fun c here => last c ?_⟩
      rwa [List.flatten_cons, List.getLast?_append_of_ne_nil _ done] at here

end Alternates

theorem runs_append {front back : Text}
    (seam : ∀ c ∈ front.getLast?, ∀ d ∈ back.head?, isWord c ≠ isWord d) :
    runs (front ++ back) = runs front ++ runs back := by
  apply List.splitBy_append
  intro c last d first
  exact beq_eq_false_iff_ne.2 (seam c last d first)

theorem runs_uniform {word : Bool} {run : Text} (ne : run ≠ []) (uniform : ∀ c ∈ run, isWord c = word) :
    runs run = [run] := by
  apply List.splitBy_of_isChain ne
  apply List.Pairwise.isChain
  apply List.pairwise_of_forall_mem_list
  intro c here d there
  rw [uniform c here, uniform d there]
  exact beq_self_eq_true word

theorem runs_cons {word : Bool} {run t : Text} (ne : run ≠ []) (uniform : ∀ c ∈ run, isWord c = word)
    (stop : ∀ d ∈ t.head?, isWord d = !word) : runs (run ++ t) = run :: runs t := by
  rw [runs_append, runs_uniform ne uniform, List.singleton_append]
  intro c last d first
  rw [uniform c (List.mem_of_getLast? last), stop d first]
  cases word <;> decide

theorem Alternates.runs_flatten {word : Bool} {pieces : List Text} (h : Alternates word pieces) :
    runs pieces.flatten = pieces := by
  induction pieces generalizing word with
  | nil => rfl
  | cons run rest ih =>
    obtain ⟨ne, uniform, later⟩ := h
    rw [List.flatten_cons, runs_cons ne uniform later.head_flatten, ih later]

theorem exists_alternates (t : Text) : ∃ word pieces, pieces.flatten = t ∧ Alternates word pieces := by
  induction t with
  | nil => exact ⟨true, [], rfl, trivial⟩
  | cons c t ih =>
    obtain ⟨word, pieces, rfl, alternate⟩ := ih
    cases pieces with
    | nil => exact ⟨isWord c, [[c]], rfl, by simp [Alternates]⟩
    | cons run rest =>
      by_cases same : isWord c = word
      · -- the character belongs to the first run
        obtain ⟨-, uniform, later⟩ := alternate
        exact ⟨word, (c :: run) :: rest, rfl, by simp, List.forall_mem_cons.2 ⟨same, uniform⟩, later⟩
      · have other : word = !isWord c := Bool.eq_not.2 (Ne.symm same)
        exact ⟨isWord c, [c] :: run :: rest, rfl, by simp, by simp, other ▸ alternate⟩

theorem alternates_runs (t : Text) : ∃ word, Alternates word (runs t) := by
  obtain ⟨word, pieces, rfl, alternate⟩ := exists_alternates t
  exact ⟨word, alternate.runs_flatten.symm ▸ alternate⟩

theorem flatten_runs (t : Text) : (runs t).flatten = t := List.flatten_splitBy _ t

theorem cutIntoRuns_iff {t : Text} {pieces : List Text} : CutIntoRuns t pieces ↔ pieces = runs t := by
  constructor
  · rintro ⟨rfl, word, alternate⟩
    exact alternate.runs_flatten.symm
  · rintro rfl
    exact ⟨flatten_runs t, alternates_runs t⟩

theorem exists_runs_of_uniform {word : Bool} {front : Text} (ne : front ≠ [])
    (uniform : ∀ c ∈ front, isWord c = word) (back : Text) :
    ∃ more rest, runs (front ++ back) = (front ++ more) :: rest := by
  let same : Char → Bool := fun c => isWord c == word
  have whole : ∀ c ∈ front ++ back.takeWhile same, isWord c = word := by
    intro c inside
    rcases List.mem_append.1 inside with early | late
    · exact uniform c early
    · exact beq_iff_eq.1 (List.all_eq_true.1 List.all_takeWhile c late)
  have stop : ∀ d ∈ (back.dropWhile same).head?, isWord d = !word := by
    intro d first
    have other := List.head?_dropWhile_not same back
    rw [Option.mem_def.1 first] at other
    exact Bool.eq_not.2 (beq_eq_false_iff_ne.1 other)
  refine ⟨back.takeWhile same, runs (back.dropWhile same), ?_⟩
  rw [← runs_cons (List.append_ne_nil_of_left_ne_nil ne _) whole stop, List.append_assoc,
    List.takeWhile_append_dropWhile]

/-- The word occurs with no word character right before or right after it. -/
def HasWord (w t : Text) : Prop :=
  ∃ front back, t = front ++ w ++ back ∧ (∀ c ∈ front.getLast?, isWord c = false) ∧
    ∀ c ∈ back.head?, isWord c = false

theorem hasWord_iff {w t : Text} (ne : w ≠ []) (word : ∀ c ∈ w, isWord c = true) :
    HasWord w t ↔ w ∈ runs t := by
  constructor
  · rintro ⟨front, back, rfl, before, after⟩
    rw [List.append_assoc, runs_append, runs_cons ne word after]
    · simp
    · intro c last d first
      rw [List.head?_append_of_ne_nil _ ne] at first
      simp [before c last, word d (List.mem_of_head? first)]
  · intro found
    obtain ⟨front, back, split⟩ := List.append_of_mem found
    obtain ⟨first, alternate⟩ := alternates_runs t
    rw [split] at alternate
    obtain ⟨kind, ⟨-, uniform, later⟩, before⟩ := alternate.drop
    obtain ⟨c, inside⟩ := List.exists_mem_of_ne_nil w ne
    obtain rfl : true = kind := (word c inside).symm.trans (uniform c inside)
    refine ⟨front.flatten, back.flatten, ?_, before, later.head_flatten⟩
    rw [← flatten_runs t, split]
    simp

theorem isWord_ascii {c : Char} (ascii : c.toNat < 0x80) :
    isWord c = inRanges (wordRanges.take 4) c := by
  have above : ((wordRanges.drop 4).all fun range => decide (0x80 ≤ range.1)) = true := by
    decide +kernel
  have none_above : inRanges (wordRanges.drop 4) c = false := by
    apply List.any_eq_false.2
    intro range listed within
    have high := of_decide_eq_true (List.all_eq_true.1 above range listed)
    simp only [Bool.and_eq_true, decide_eq_true_eq] at within
    omega
  have split : isWord c = (inRanges (wordRanges.take 4) c || inRanges (wordRanges.drop 4) c) := by
    rw [isWord, inRanges, inRanges, inRanges, ← List.any_append, List.take_append_drop]
  rw [split, none_above, Bool.or_false]

theorem forall_isWord {word : Bool} {t : Text}
    (h : (t.all fun c => decide (c.toNat < 0x80) && inRanges (wordRanges.take 4) c == word) = true) :
    ∀ c ∈ t, isWord c = word := by
  intro c inside
  have both := List.all_eq_true.1 h c inside
  simp only [Bool.and_eq_true, decide_eq_true_eq, beq_iff_eq] at both
  rw [isWord_ascii both.1, both.2]

theorem ranges_apart : (blankRanges.all fun blank => wordRanges.all fun word =>
    decide (blank.2 < word.1) || decide (word.2 < blank.1)) = true := by
  decide +kernel

theorem isWord_of_isBlank {c : Char} (h : isBlank c) : isWord c = false := by
  obtain ⟨blank, listed, within⟩ := List.any_eq_true.1 h
  apply List.any_eq_false.2
  intro word also both
  have apart := List.all_eq_true.1 (List.all_eq_true.1 ranges_apart blank listed) word also
  simp only [Bool.or_eq_true, Bool.and_eq_true, decide_eq_true_eq] at apart within both
  omega

end JspEndpoint.Text
