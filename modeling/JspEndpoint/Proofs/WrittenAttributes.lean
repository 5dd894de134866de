import JspEndpoint.Template.Attribute

/-!
Attributes as they are written, with blanks of any length where blanks may stand, and their reading.
A written attribute carries the proofs that its name is a name and that its value does not hold its
own quote, so every one of them is well formed. The readers get through written attributes one after
the other and keep exactly their names and values.
-/

namespace JspEndpoint.Template

/-- The text leads a reader from one state to another. -/
def Reads {σ : Type} (step : σ → Char → Option σ) (state : σ) (t : Text) (next : σ) : Prop :=
  t.foldlM step state = some next

namespace Reads

variable {σ : Type} {step : σ → Char → Option σ} {state middle next : σ}

theorem nil : Reads step state [] state := rfl

theorem cons {c : Char} {t : Text} (first : step state c = some middle)
    (later : Reads step middle t next) : Reads step state (c :: t) next := by
  rw [Reads, List.foldlM_cons, first]
  exact later

theorem append {s t : Text} (front : Reads step state s middle)
    (later : Reads step middle t next) : Reads step state (s ++ t) next := by
  rw [Reads, List.foldlM_append, front]
  exact later

theorem map {τ : Type} {step' : τ → Char → Option τ} (f : σ → τ)
    (lift : ∀ {s c s'}, step s c = some s' → step' (f s) c = some (f s')) {t : Text}
    (h : Reads step state t next) : Reads step' (f state) t (f next) := by
  induction t generalizing state with
  | nil =>
    obtain rfl : state = next := Option.some.inj h
    exact nil
  | cons c t ih =>
    cases first : step state c with
    | none => simp [Reads, first] at h
    | some middle =>
      have later : Reads step middle t next := by simpa [Reads, first] using h
      exact cons (lift first) (ih later)

theorem stay {t : Text} (h : ∀ c ∈ t, step state c = some state) : Reads step state t state := by
  induction t with
  | nil => exact nil
  | cons c t ih =>
    obtain ⟨first, later⟩ := List.forall_mem_cons.1 h
    exact cons first (ih later)

end Reads

namespace Machine

variable {σ α : Type} (m : Machine σ α)

theorem run_of_reads {state next : σ} {t : Text} (h : Reads m.step state t next) (index : Nat)
    (rest : Text) : m.run index state (t ++ rest) = m.run (index + t.length) next rest := by
  induction t generalizing state index with
  | nil =>
    obtain rfl : state = next := Option.some.inj h
    rfl
  | cons c t ih =>
    cases first : m.step state c with
    | none => simp [Reads, first] at h
    | some middle =>
      have later : Reads m.step middle t next := by simpa [Reads, first] using h
      rw [List.cons_append, run, first]
      simp only [ih later, List.length_cons]
      rw [Nat.add_right_comm, Nat.add_assoc]

theorem read_of_reads {t : Text} {state : σ} {a : α} (h : Reads m.step m.start t state)
    (result : m.result state = some a) : m.read t = .ok a := by
  have whole := m.run_of_reads h 0 []
  rw [List.append_nil] at whole
  rw [read, whole, run, result]

variable {m}

theorem stuck_of_run_error {index : Nat} {state : σ} {t : Text} {failure : Failure}
    (h : m.run index state t = .error failure) :
    ∃ front far next, t = front ++ far ∧ failure = ⟨index + front.length, far.head?⟩ ∧
      Reads m.step state front next ∧ ∀ c ∈ far.head?, m.step next c = none := by
  induction t generalizing index state with
  | nil =>
    rw [run] at h
    split at h
    · cases h
    · cases h
      exact ⟨[], [], state, rfl, rfl, Reads.nil, by simp⟩
  | cons c t ih =>
    rw [run] at h
    split at h
    · next middle first =>
      obtain ⟨front, far, next, rfl, rfl, reads, stuck⟩ := ih h
      refine ⟨c :: front, far, next, rfl, ?_, Reads.cons first reads, stuck⟩
      rw [List.length_cons, Nat.add_right_comm, Nat.add_assoc]
    · next none_next =>
      cases h
      refine ⟨[], c :: t, state, rfl, rfl, Reads.nil, ?_⟩
      rintro d ⟨⟩
      exact none_next

end Machine

theorem toNat_of_isNameChar {c : Char} (h : Attribute.isNameChar c) :
    48 ≤ c.toNat ∧ c.toNat ≤ 122 ∨ c.toNat = 45 ∨ c.toNat = 46 := by
  have val : c.val.toNat = c.toNat := rfl
  have bounds : 'A'.val.toNat = 65 ∧ 'Z'.val.toNat = 90 ∧ 'a'.val.toNat = 97 ∧
      'z'.val.toNat = 122 ∧ '0'.val.toNat = 48 ∧ '9'.val.toNat = 57 := by
    decide
  delta Attribute.isNameChar Char.isAlphanum Char.isAlpha at h
  delta Char.isUpper Char.isLower Char.isDigit at h
  simp only [Bool.or_eq_true, Bool.and_eq_true, decide_eq_true_eq, ge_iff_le,
    UInt32.le_iff_toNat_le, val] at h
  rcases h with (((((range | range) | range) | rfl) | rfl) | rfl) | rfl
  · omega
  · omega
  · omega
  all_goals decide

theorem isNameChar_of_isBlank {c : Char} (h : Text.isBlank c) : Attribute.isNameChar c = false := by
  have ranges : ∃ r ∈ Text.blankRanges, r.1 ≤ c.toNat ∧ c.toNat ≤ r.2 := by
    simpa [Text.isBlank, Text.inRanges] using h
  rw [Bool.eq_false_iff]
  intro name
  have code := toNat_of_isNameChar name
  simp [Text.blankRanges] at ranges
  omega

theorem isBlank_of_isNameChar {c : Char} (h : Attribute.isNameChar c) : Text.isBlank c = false := by
  rw [Bool.eq_false_iff]
  intro blank
  rw [isNameChar_of_isBlank blank] at h
  cases h

/-- Blanks, perhaps none. -/
abbrev Blanks := { t : Text // ∀ c ∈ t, Text.isBlank c }

/-- An attribute as it stands in a body, with the blanks around its parts. -/
structure WrittenAttribute where
  before : Blanks
  name : Text
  name_ne_nil : name ≠ []
  name_chars : ∀ c ∈ name, Attribute.isNameChar c
  afterName : Blanks
  beforeValue : Blanks
  quote : Char
  isQuote : quote = '"' ∨ quote = '\''
  content : Text
  content_free : quote ∉ content
  after : Blanks

namespace WrittenAttribute

def value (w : WrittenAttribute) : Text := w.quote :: w.content ++ [w.quote]

def toAttribute (w : WrittenAttribute) : Attribute := ⟨w.name, w.value⟩

def text (w : WrittenAttribute) : Text :=
  w.before ++ (w.name ++ (w.afterName ++ ['='] ++ (w.beforeValue ++ (w.value ++ w.after))))

end WrittenAttribute

namespace ListState

theorem reads_blanks_gap (done : List Attribute) (b : Blanks) :
    Reads step (gap done) b (gap done) :=
  Reads.stay fun c hc => by simp [step, b.2 c hc]

theorem reads_blanks_equals (done : List Attribute) (n : Text) (b : Blanks) :
    Reads step (equals done n) b (equals done n) :=
  Reads.stay fun c hc => by simp [step, b.2 c hc]

theorem reads_name_more (done : List Attribute) (read t : Text)
    (h : ∀ c ∈ t, Attribute.isNameChar c) :
    Reads step (name done read) t (name done (t.reverse ++ read)) := by
  induction t generalizing read with
  | nil => exact Reads.nil
  | cons c t ih =>
    obtain ⟨first, later⟩ := List.forall_mem_cons.1 h
    have stays : step (name done read) c = some (name done (c :: read)) := by simp [step, first]
    exact Reads.cons stays (by simpa using ih (c :: read) later)

theorem reads_equals (done : List Attribute) (read : Text) (b : Blanks) :
    Reads step (name done read) (b ++ ['=']) (equals done read.reverse) := by
  -- Blanks after a name, if there are any, lead to a state of their own; the `=` ends both.
  obtain ⟨t, blank⟩ := b
  cases t with
  | nil => exact Reads.cons rfl Reads.nil
  | cons c t =>
    obtain ⟨first, later⟩ := List.forall_mem_cons.1 blank
    have leaves : step (name done read) c = some (named done read.reverse) := by
      simp [step, first, isNameChar_of_isBlank first]
    have stays : Reads step (named done read.reverse) t (named done read.reverse) :=
      Reads.stay fun d hd => by simp [step, later d hd]
    exact Reads.cons leaves (stays.append (Reads.cons rfl Reads.nil))

theorem reads_content (done : List Attribute) (n : Text) {q : Char} (read t : Text) (h : q ∉ t) :
    Reads step (value done n q read) t (value done n q (t.reverse ++ read)) := by
  induction t generalizing read with
  | nil => exact Reads.nil
  | cons c t ih =>
    obtain ⟨other, later⟩ := not_or.1 (mt List.mem_cons.2 h)
    have stays : step (value done n q read) c = some (value done n q (c :: read)) := by
      simp [step, Ne.symm other]
    exact Reads.cons stays (by simpa using ih (c :: read) later)

theorem reads_value (done : List Attribute) (n : Text) {q : Char} (isQuote : q = '"' ∨ q = '\'')
    {content : Text} (free : q ∉ content) :
    Reads step (equals done n) (q :: content ++ [q]) (gap (⟨n, q :: content ++ [q]⟩ :: done)) := by
  have opens : step (equals done n) q = some (value done n q [q]) := by
    have visible : Text.isBlank q = false := by
      rcases isQuote with rfl | rfl <;> decide
    simp [step, visible, isQuote]
  have closes : step (value done n q (content.reverse ++ [q])) q =
      some (gap (⟨n, q :: content ++ [q]⟩ :: done)) := by
    simp [step]
  have inside := reads_content done n [q] content free
  exact Reads.cons opens (inside.append (Reads.cons closes Reads.nil))

theorem reads_rest (done : List Attribute) (w : WrittenAttribute) :
    Reads step (name done w.name.reverse)
      (w.afterName ++ ['='] ++ (w.beforeValue ++ (w.value ++ w.after)))
      (gap (w.toAttribute :: done)) := by
  have named := reads_equals done w.name.reverse w.afterName
  rw [List.reverse_reverse] at named
  exact named.append ((reads_blanks_equals done w.name w.beforeValue).append
    ((reads_value done w.name w.isQuote w.content_free).append
      (reads_blanks_gap (w.toAttribute :: done) w.after)))

end ListState

namespace TagState

/-- Where the reader of a tag stands after attributes, given in reverse. -/
def between : List Attribute → TagState
  | [] => fresh
  | done => list (.gap done)

theorem result_between (done : List Attribute) : (between done).result = some done.reverse := by
  cases done <;> rfl

theorem step_list {state next : ListState} {c : Char} (h : state.step c = some next) :
    step (list state) c = some (list next) := by
  cases state with
  | gap done =>
    -- where an attribute may start a slash ends the list, and no attribute starts with one
    have other : c ≠ '/' := by
      rintro rfl
      cases h
    simp [step, stepGap, other, h]
  | _ => simp [step, h]

theorem reads_blanks_between (done : List Attribute) (b : Blanks) :
    ∃ state, Reads step (between done) b state ∧
      ∀ c, Text.isBlank c = false → step state c = stepGap done c := by
  cases done with
  | nil =>
    obtain ⟨t, blank⟩ := b
    cases t with
    | nil => exact ⟨fresh, Reads.nil, fun c visible => by simp [step, visible]⟩
    | cons c t =>
      obtain ⟨first, later⟩ := List.forall_mem_cons.1 blank
      have enters : step (between []) c = some TagState.blank := by simp [between, step, first]
      have stays : Reads step TagState.blank t TagState.blank :=
        Reads.stay fun d hd => by simp [step, later d hd]
      exact ⟨TagState.blank, Reads.cons enters stays, fun c visible => by simp [step, visible]⟩
  | cons a done =>
    exact ⟨_, (ListState.reads_blanks_gap (a :: done) b).map list step_list, fun c _ => rfl⟩

theorem reads_attribute (done : List Attribute) (w : WrittenAttribute) :
    Reads step (between done) w.text (between (w.toAttribute :: done)) := by
  obtain ⟨c, t, split⟩ := List.exists_cons_of_ne_nil w.name_ne_nil
  obtain ⟨first, later⟩ := List.forall_mem_cons.1 (split ▸ w.name_chars)
  obtain ⟨state, blanks, goes⟩ := reads_blanks_between done w.before
  have enters : step state c = some (list (.name done [c])) := by
    have visible := isBlank_of_isNameChar first
    rw [goes c visible]
    have other : c ≠ '/' := by
      rintro rfl
      cases first
    simp [stepGap, ListState.step, other, visible, first]
  have named : Reads step state w.name (list (.name done w.name.reverse)) := by
    have more := (ListState.reads_name_more done [c] t later).map list step_list
    rw [split, List.reverse_cons]
    exact Reads.cons enters more
  exact blanks.append (named.append ((ListState.reads_rest done w).map list step_list))

theorem reads_attributes (done : List Attribute) (written : List WrittenAttribute) :
    Reads step (between done) (written.flatMap WrittenAttribute.text)
      (between ((written.map WrittenAttribute.toAttribute).reverse ++ done)) := by
  induction written generalizing done with
  | nil => exact Reads.nil
  | cons w rest ih =>
    have later := ih (w.toAttribute :: done)
    rw [List.flatMap_cons, List.map_cons, List.reverse_cons, List.append_assoc]
    exact (reads_attribute done w).append later

theorem reads_slash (done : List Attribute) (before after : Blanks) :
    Reads step (between done) (before ++ ['/'] ++ after) (slash done.reverse) := by
  obtain ⟨state, blanks, goes⟩ := reads_blanks_between done before
  have ends : step state '/' = some (slash done.reverse) := goes '/' rfl
  have stays : Reads step (slash done.reverse) after (slash done.reverse) :=
    Reads.stay fun c hc => by simp [step, after.2 c hc]
  exact (blanks.append (Reads.cons ends Reads.nil)).append stays

end TagState

/-- How the body of a tag ends after its attributes. -/
inductive TagEnding where
  | plain
  | slash (before after : Blanks)

def TagEnding.text : TagEnding → Text
  | plain => []
  | slash before after => before ++ ['/'] ++ after

theorem readTag_written (written : List WrittenAttribute) (ending : TagEnding) :
    readTag (written.flatMap WrittenAttribute.text ++ ending.text) =
      .ok (written.map WrittenAttribute.toAttribute) := by
  have attributes := TagState.reads_attributes [] written
  rw [List.append_nil] at attributes
  cases ending with
  | plain =>
    have result := TagState.result_between (written.map WrittenAttribute.toAttribute).reverse
    rw [List.reverse_reverse] at result
    exact tagMachine.read_of_reads (attributes.append Reads.nil) result
  | slash before after =>
    have slash :=
      TagState.reads_slash (written.map WrittenAttribute.toAttribute).reverse before after
    rw [List.reverse_reverse] at slash
    exact tagMachine.read_of_reads (attributes.append slash) rfl

end JspEndpoint.Template
