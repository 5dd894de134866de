import JspEndpoint.Proofs.AttributeGrammar

/-!
Where a body that cannot be read is rejected. From every state of the machines some text leads to an
end, so what a machine has read when it fails is the start of a body that can be read, and with the
next character it is no longer. The failure is also the one that attempts report: the furthest place
at which anything that was tried failed.
-/

namespace JspEndpoint.Template

/-- Some text that starts in this way is read. -/
def Viable {α : Type} (read : Text → Except Failure α) (front : Text) : Prop :=
  ∃ rest found, read (front ++ rest) = .ok found

/-- The failure stands behind the longest part of the body that a readable text starts with, and shows
the character there. -/
structure FailsBehindViable {α : Type} (read : Text → Except Failure α) (body : Text)
    (failure : Failure) : Prop where
  within : failure.index ≤ body.length
  viable : Viable read (body.take failure.index)
  longest : ∀ front, front <+: body → Viable read front → front.length ≤ failure.index
  dead : failure.index < body.length → ¬Viable read (body.take (failure.index + 1))
  found : failure.found = body[failure.index]?
  ended : failure.found = none ↔ failure.index = body.length

namespace Machine

variable {σ α : Type} {m : Machine σ α}

/-- From every state some text leads to an end. -/
def Live (m : Machine σ α) : Prop :=
  ∀ state, ∃ rest next found, Reads m.step state rest next ∧ m.result next = some found

theorem Live.viable (live : m.Live) {front : Text} {state : σ}
    (reads : Reads m.step m.start front state) : Viable m.read front := by
  obtain ⟨rest, next, found, later, result⟩ := live state
  exact ⟨rest, found, m.read_of_reads (reads.append later) result⟩

theorem not_viable_of_stuck {front far : Text} {state : σ} {c : Char}
    (reads : Reads m.step m.start front state) (stuck : m.step state c = none) :
    ¬Viable m.read (front ++ c :: far) := by
  rintro ⟨rest, found, read⟩
  have rejected : m.read (front ++ c :: (far ++ rest)) = .error ⟨front.length, some c⟩ :=
    read_of_stuck reads (by simp) (by simpa using stuck)
  rw [List.append_assoc, List.cons_append, rejected] at read
  cases read

theorem Live.failsBehindViable (live : m.Live) {body : Text} {failure : Failure}
    (h : m.read body = .error failure) : FailsBehindViable m.read body failure := by
  obtain ⟨front, far, state, rfl, rfl, reads, stuck⟩ := stuck_of_run_error h
  simp only [Nat.zero_add]
  have longest : ∀ other, other <+: front ++ far → Viable m.read other →
      other.length ≤ front.length := by
    intro other starts viable
    by_contra longer
    have front_first : front <+: other :=
      List.prefix_of_prefix_length_le (List.prefix_append front far) starts (by omega)
    obtain ⟨back, rfl⟩ := front_first
    cases back with
    | nil => simp at longer
    | cons c back =>
      obtain ⟨more, rfl⟩ := (List.prefix_append_right_inj front).1 starts
      exact not_viable_of_stuck reads (stuck c (by simp)) viable
  refine ⟨by simp, ?_, longest, ?_, ?_, ?_⟩
  · rw [List.take_left]
    exact live.viable reads
  · intro inside viable
    have short := longest _ (List.take_prefix _ _) viable
    rw [List.length_take, Nat.min_eq_left inside] at short
    exact Nat.not_succ_le_self _ short
  · rw [List.getElem?_append_right (Nat.le_refl _), Nat.sub_self, List.head?_eq_getElem?]
  · simp

end Machine

theorem ListState.live (state : ListState) :
    ∃ rest done, Reads step state rest (gap done) := by
  cases state with
  | gap done => exact ⟨[], done, Reads.nil⟩
  | name done read => exact ⟨['=', '"', '"'], _, rfl⟩
  | named done n => exact ⟨['=', '"', '"'], _, rfl⟩
  | equals done n => exact ⟨['"', '"'], _, rfl⟩
  | value done n quote read => exact ⟨[quote], _, Reads.cons (if_pos rfl) Reads.nil⟩

theorem tagMachine_live : tagMachine.Live := by
  intro state
  cases state with
  | fresh => exact ⟨[], .fresh, [], Reads.nil, rfl⟩
  | blank => exact ⟨['/'], .slash [], [], rfl, rfl⟩
  | list state =>
    obtain ⟨rest, done, reads⟩ := state.live
    exact ⟨rest, .list (.gap done), done.reverse, reads.map TagState.list TagState.step_list, rfl⟩
  | slash attributes => exact ⟨[], .slash attributes, attributes, Reads.nil, rfl⟩

theorem directiveMachine_live : directiveMachine.Live := by
  intro state
  cases state with
  | lead => exact ⟨['a'], .name ['a'], ⟨['a'], []⟩, rfl, rfl⟩
  | name read => exact ⟨[], .name read, _, Reads.nil, rfl⟩
  | list n state =>
    obtain ⟨rest, done, reads⟩ := state.live
    exact ⟨rest, .list n (.gap done), _, DirectiveState.reads_within n reads, rfl⟩

/-- The failure that attempts report: the furthest of all. -/
def Attempt.Reports {α : Type} (a : Attempt α) (body : Text) (failure : Failure) : Prop :=
  a.outcome = none ∧ ∃ front far, body = front ++ far ∧ Furthest far a.failed ∧
    failure = ⟨front.length, far.head?⟩

theorem RejectedAlike.reports_iff {α : Type} {trial : Trial α} {read : Text → Except Failure α}
    {body : Text} {failure : Failure} (h : RejectedAlike trial read body)
    (read_error : read body = .error failure) (other : Failure) :
    (trial body).Reports body other ↔ other = failure := by
  -- Attempts report one failure, since places that are equally far are one place.
  obtain ⟨front, far, split, none_read, furthest, rejected⟩ := h
  obtain rfl : ⟨front.length, far.head?⟩ = failure := by
    rw [rejected] at read_error
    exact Except.error.inj read_error
  constructor
  · rintro ⟨-, front', far', split', furthest', rfl⟩
    have le := furthest.2 far' furthest'.1
    have ge := furthest'.2 far furthest.1
    have same : front.length = front'.length := by
      have sizes := congrArg List.length (split.symm.trans split')
      simp only [List.length_append] at sizes
      omega
    obtain ⟨rfl, rfl⟩ := List.append_inj (split.symm.trans split') same
    rfl
  · rintro rfl
    exact ⟨none_read, front, far, split, furthest, rfl⟩

/-- A body that is rejected has one failure, the furthest of everything that is tried, and it stands
behind the longest part of the body that a readable text starts with. -/
theorem failures_behind_viable (body : Text) :
    (∀ failure, readTag body = .error failure →
      (∀ other, (Trial.tag body).Reports body other ↔ other = failure) ∧
        FailsBehindViable readTag body failure) ∧
    ∀ failure, readDirective body = .error failure →
      (∀ other, (Trial.directive body).Reports body other ↔ other = failure) ∧
        FailsBehindViable readDirective body failure := by
  constructor
  · intro failure rejected
    refine ⟨?_, tagMachine_live.failsBehindViable rejected⟩
    rcases tag_cases body with ⟨w, rfl, -⟩ | alike
    · rw [w.readTag_text] at rejected
      cases rejected
    · exact alike.reports_iff rejected
  · intro failure rejected
    refine ⟨?_, directiveMachine_live.failsBehindViable rejected⟩
    rcases directive_cases body with ⟨w, rfl, -⟩ | alike
    · rw [readDirective_written w] at rejected
      cases rejected
    · exact alike.reports_iff rejected

theorem failures_behind_viable_two :
    let bare : Text := " key=title/"
    let unclosed : Text := " page import='a.B\" "
    (readTag bare = .error ⟨5, some 't'⟩ ∧
      (∀ other, (Trial.tag bare).Reports bare other ↔ other = ⟨5, some 't'⟩) ∧
        FailsBehindViable readTag bare ⟨5, some 't'⟩) ∧
    readDirective unclosed = .error ⟨19, none⟩ ∧
      (∀ other, (Trial.directive unclosed).Reports unclosed other ↔ other = ⟨19, none⟩) ∧
        FailsBehindViable readDirective unclosed ⟨19, none⟩ := by
  intro bare unclosed
  have at_value : readTag bare = .error ⟨5, some 't'⟩ := by decide +kernel
  have at_end : readDirective unclosed = .error ⟨19, none⟩ := by decide +kernel
  exact ⟨⟨at_value, (failures_behind_viable bare).1 _ at_value⟩, at_end,
    (failures_behind_viable unclosed).2 _ at_end⟩

end JspEndpoint.Template
