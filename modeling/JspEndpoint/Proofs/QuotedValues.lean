import JspEndpoint.Template.Attribute
import Mathlib.Data.List.Basic

/-!
Values of attributes that are read stand in quotes. The readers of tags and directives keep the
quotes of a value and close it at the first quote of its own kind, so each value has one content,
and taking the quotes off gives it.
-/

namespace JspEndpoint.Template

/-- The value is the content in quotes that the content does not hold. -/
def QuotedAs (value content : Text) : Prop :=
  ∃ quote, (quote = '"' ∨ quote = '\'') ∧ quote ∉ content ∧ value = quote :: content ++ [quote]

theorem QuotedAs.unquote_eq {value content : Text} (h : QuotedAs value content) :
    Attribute.unquote value = content := by
  obtain ⟨quote, -, -, rfl⟩ := h
  simp [Attribute.unquote]

def AllQuoted (attributes : List Attribute) : Prop :=
  ∀ a ∈ attributes, ∃ content, QuotedAs a.value content

theorem Machine.of_run_eq_ok {σ α : Type} {m : Machine σ α} {P : σ → Prop} {Q : α → Prop}
    (step : ∀ {s c next}, P s → m.step s c = some next → P next)
    (result : ∀ {s a}, P s → m.result s = some a → Q a) {index : Nat} {state : σ} {t : Text} {a : α}
    (start : P state) (h : m.run index state t = .ok a) : Q a := by
  induction t generalizing index state with
  | nil =>
    rw [run] at h
    split at h
    · next found =>
      cases h
      exact result start found
    · cases h
  | cons c t ih =>
    rw [run] at h
    split at h
    · next moved => exact ih (step start moved) h
    · cases h

/-- The attributes read so far are quoted, and an open value starts with its quote. -/
def ListState.Quoted : ListState → Prop
  | gap done | name done _ | named done _ | equals done _ => AllQuoted done
  | value done _ quote read =>
    AllQuoted done ∧ (quote = '"' ∨ quote = '\'') ∧
      ∃ content, quote ∉ content ∧ read.reverse = quote :: content

theorem ListState.Quoted.step {s next : ListState} {c : Char} (h : s.Quoted)
    (moved : s.step c = some next) : next.Quoted := by
  cases s with
  | gap done | name done read | named done n =>
    simp only [ListState.step] at moved
    split_ifs at moved <;> cases moved <;> exact h
  | equals done n =>
    simp only [ListState.step] at moved
    split_ifs at moved with blank isQuote
    · cases moved
      exact h
    · cases moved
      exact ⟨h, isQuote, [], by simp, rfl⟩
  | value done n quote read =>
    obtain ⟨quoted, isQuote, content, free, opened⟩ := h
    simp only [ListState.step] at moved
    split_ifs at moved with closes
    · cases moved
      have whole : QuotedAs (c :: read).reverse content :=
        ⟨quote, isQuote, free, by rw [List.reverse_cons, opened, closes]⟩
      exact List.forall_mem_cons.2 ⟨⟨content, whole⟩, quoted⟩
    · cases moved
      refine ⟨quoted, isQuote, content ++ [c], ?_, by rw [List.reverse_cons, opened]; rfl⟩
      simp [free, Ne.symm closes]

theorem ListState.Quoted.result {s : ListState} {attributes : List Attribute} (h : s.Quoted)
    (found : s.result = some attributes) : AllQuoted attributes := by
  cases s with
  | gap done =>
    obtain rfl := Option.some.inj found
    intro a ha
    exact h a (List.mem_reverse.1 ha)
  | _ => cases found

def TagState.Quoted : TagState → Prop
  | fresh | blank => True
  | list state => state.Quoted
  | slash attributes => AllQuoted attributes

theorem TagState.stepGap_quoted {done : List Attribute} {next : TagState} {c : Char}
    (h : AllQuoted done) (moved : stepGap done c = some next) : next.Quoted := by
  unfold stepGap at moved
  split at moved
  · cases moved
    intro a ha
    exact h a (List.mem_reverse.1 ha)
  · obtain ⟨state, inner, rfl⟩ := Option.map_eq_some_iff.1 moved
    have gap : (ListState.gap done).Quoted := h
    exact gap.step inner

theorem TagState.Quoted.step {s next : TagState} {c : Char} (h : s.Quoted)
    (moved : s.step c = some next) : next.Quoted := by
  cases s with
  | fresh | blank =>
    simp only [TagState.step] at moved
    split at moved
    · cases moved
      trivial
    · exact stepGap_quoted (by simp [AllQuoted]) moved
  | list state =>
    have inside : state.Quoted := h
    cases state with
    | gap done => exact stepGap_quoted inside moved
    | _ =>
      obtain ⟨later, inner, rfl⟩ := Option.map_eq_some_iff.1 moved
      exact inside.step inner
  | slash attributes =>
    simp only [TagState.step] at moved
    split at moved
    · cases moved
      exact h
    · cases moved

theorem allQuoted_of_readTag {body : Text} {attributes : List Attribute}
    (h : readTag body = .ok attributes) : AllQuoted attributes := by
  have start : TagState.fresh.Quoted := trivial
  refine Machine.of_run_eq_ok TagState.Quoted.step ?_ start h
  intro s result quoted found
  cases s with
  | fresh =>
    obtain rfl := Option.some.inj found
    simp [AllQuoted]
  | blank => cases found
  | list state => exact ListState.Quoted.result quoted found
  | slash attributes =>
    obtain rfl := Option.some.inj found
    exact quoted

def DirectiveState.Quoted : DirectiveState → Prop
  | lead | name _ => True
  | list _ state => state.Quoted

theorem DirectiveState.Quoted.step {s next : DirectiveState} {c : Char} (h : s.Quoted)
    (moved : s.step c = some next) : next.Quoted := by
  cases s with
  | lead =>
    simp only [DirectiveState.step] at moved
    split_ifs at moved <;> cases moved <;> trivial
  | name read =>
    simp only [DirectiveState.step] at moved
    split at moved
    · cases moved
      trivial
    · obtain ⟨state, inner, rfl⟩ := Option.map_eq_some_iff.1 moved
      have gap : (ListState.gap []).Quoted := by simp [ListState.Quoted, AllQuoted]
      exact gap.step inner
  | list n state =>
    have inside : state.Quoted := h
    obtain ⟨later, inner, rfl⟩ := Option.map_eq_some_iff.1 moved
    exact inside.step inner

theorem allQuoted_of_readDirective {body : Text} {d : Directive} (h : readDirective body = .ok d) :
    AllQuoted d.attributes := by
  have start : DirectiveState.lead.Quoted := trivial
  refine Machine.of_run_eq_ok (m := directiveMachine) (Q := fun d => AllQuoted d.attributes)
    DirectiveState.Quoted.step ?_ start h
  intro s result quoted found
  cases s with
  | lead => cases found
  | name read =>
    obtain rfl := Option.some.inj found
    simp [AllQuoted]
  | list n state =>
    obtain ⟨attributes, inner, rfl⟩ := Option.map_eq_some_iff.1 found
    exact ListState.Quoted.result quoted inner

/-- The first attribute of that name has that value, quotes apart. -/
def FirstValue (attributes : List Attribute) (name content : Text) : Prop :=
  ∃ before a after, attributes = before ++ a :: after ∧ (∀ b ∈ before, b.name ≠ name) ∧
    a.name = name ∧ QuotedAs a.value content

theorem find?_eq_none_iff {attributes : List Attribute} {name : Text} :
    Attribute.find? attributes name = none ↔ ∀ a ∈ attributes, a.name ≠ name := by
  simp [Attribute.find?]

theorem AllQuoted.firstValue {attributes : List Attribute} (h : AllQuoted attributes)
    {name value : Text} (found : Attribute.find? attributes name = some value) :
    FirstValue attributes name (Attribute.unquote value) := by
  obtain ⟨a, first, rfl⟩ := Option.map_eq_some_iff.1 found
  obtain ⟨named, before, after, rfl, others⟩ := List.find?_eq_some_iff_append.1 first
  obtain ⟨content, quoted⟩ := h a (by simp)
  rw [quoted.unquote_eq]
  exact ⟨before, a, after, rfl, by simpa using others, by simpa using named, quoted⟩

end JspEndpoint.Template
