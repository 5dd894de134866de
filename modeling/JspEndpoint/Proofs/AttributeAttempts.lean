import JspEndpoint.Proofs.WrittenAttributes
import Mathlib.Data.List.TakeWhile

/-!
Bodies read by attempts. Attributes are tried one after the other; an attempt that fails is undone
together with its blanks, and what stands there is tried as the end of the body. The places of all
failures are kept. The machines never go back, and still they read the same bodies to the same
attributes and stop at the furthest of those places.
-/

namespace JspEndpoint.Template

/-- What an attempt gives: if it succeeds, what it reads and the text that is left, and in any case
the text that was left at each place where something in it failed. -/
structure Attempt (α : Type) where
  outcome : Option (α × Text)
  failed : List Text

def Trial (α : Type) := Text → Attempt α

namespace Trial

variable {α β : Type}

def one (p : Char → Bool) : Trial Char
  | [] => ⟨none, [[]]⟩
  | c :: t => if p c then ⟨some (c, t), []⟩ else ⟨none, [c :: t]⟩

def finish : Trial Unit
  | [] => ⟨some ((), []), []⟩
  | c :: t => ⟨none, [c :: t]⟩

def map (f : α → β) (p : Trial α) : Trial β := fun t =>
  ⟨(p t).outcome.map fun (a, rest) => (f a, rest), (p t).failed⟩

def bind (p : Trial α) (next : α → Trial β) : Trial β := fun t =>
  match (p t).outcome with
  | none => ⟨none, (p t).failed⟩
  | some (a, rest) => ⟨(next a rest).outcome, (p t).failed ++ (next a rest).failed⟩

def orElse (p q : Trial α) : Trial α := fun t =>
  match (p t).outcome with
  | none => ⟨(q t).outcome, (p t).failed ++ (q t).failed⟩
  | some found => ⟨some found, (p t).failed⟩

def optional (p : Trial α) : Trial (Option α) := fun t =>
  match (p t).outcome with
  | none => ⟨some (none, t), (p t).failed⟩
  | some (a, rest) => ⟨some (some a, rest), (p t).failed⟩

/-- With blanks around it. -/
def padded (p : Trial α) : Trial α := fun t =>
  let inner := p (Text.skipBlanks t)
  ⟨inner.outcome.map fun (a, rest) => (a, Text.skipBlanks rest), inner.failed⟩

/-- As often as it succeeds and reads something. -/
def manyFrom (p : Trial α) (t : Text) : Attempt (List α) :=
  match (p t).outcome with
  | none => ⟨some ([], t), (p t).failed⟩
  | some (a, rest) =>
    if rest.length < t.length then
      let later := manyFrom p rest
      ⟨later.outcome.map fun (as, rest) => (a :: as, rest), (p t).failed ++ later.failed⟩
    else ⟨some ([], t), (p t).failed⟩
termination_by t.length

def many (p : Trial α) : Trial (List α) := manyFrom p

def someOf (p : Char → Bool) : Trial Text :=
  (one p).bind fun c => (many (one p)).map (c :: ·)

def quoted (quote : Char) : Trial Text :=
  (one (· = quote)).bind fun _ => (many (one (· ≠ quote))).bind fun content =>
    (one (· = quote)).map fun _ => quote :: content ++ [quote]

def value : Trial Text := (quoted '"').orElse (quoted '\'')

/-- What follows the name of an attribute. -/
def assigned (name : Text) : Trial Attribute :=
  (padded (one (· = '='))).bind fun _ => value.map fun value => ⟨name, value⟩

def namedValue : Trial Attribute := (someOf Attribute.isNameChar).bind assigned

def attributes : Trial (List Attribute) := many (padded namedValue)

/-- What follows the attributes of a tag. -/
def closing (found : List Attribute) : Trial (List Attribute) :=
  (optional (padded (one (· = '/')))).bind fun _ => finish.map fun _ => found

def tag : Trial (List Attribute) := attributes.bind closing

def identifier : Trial Text :=
  (one DirectiveState.isFirst).bind fun c => (many (one DirectiveState.isNext)).map (c :: ·)

/-- What follows the name of a directive. -/
def described (name : Text) : Trial Directive :=
  attributes.bind fun found => finish.map fun _ => ⟨name, found⟩

def directive : Trial Directive := (padded identifier).bind described

end Trial

/-- The text does not go on with a character of that class. -/
def StopsAt (p : Char → Bool) (t : Text) : Prop := ∀ c ∈ t.head?, p c = false

/-- No place among the failures is further than this one. -/
def Furthest (far : Text) (failed : List Text) : Prop :=
  far ∈ failed ∧ ∀ place ∈ failed, far.length ≤ place.length

namespace Furthest

variable {far : Text} {failed more : List Text}

theorem append_left (h : Furthest far failed) (later : ∀ place ∈ more, far.length ≤ place.length) :
    Furthest far (more ++ failed) :=
  ⟨List.mem_append_right more h.1,
    fun place hp => (List.mem_append.1 hp).elim (later place) (h.2 place)⟩

theorem append_right (h : Furthest far failed) (later : ∀ place ∈ more, far.length ≤ place.length) :
    Furthest far (failed ++ more) :=
  ⟨List.mem_append_left more h.1,
    fun place hp => (List.mem_append.1 hp).elim (h.2 place) (later place)⟩

end Furthest

theorem stopsAt_dropWhile (p : Char → Bool) (t : Text) : StopsAt p (t.dropWhile p) := by
  intro c hc
  have stop := List.head?_dropWhile_not p t
  rw [Option.mem_def.1 hc] at stop
  exact stop

theorem dropWhile_of_stopsAt {p : Char → Bool} {run rest : Text} (all : ∀ c ∈ run, p c)
    (stop : StopsAt p rest) : (run ++ rest).dropWhile p = rest := by
  rw [List.dropWhile_append_of_pos all]
  cases rest with
  | nil => rfl
  | cons c rest => rw [List.dropWhile_cons_of_neg (by simp [stop c rfl])]

theorem takeWhile_of_stopsAt {p : Char → Bool} {run rest : Text} (all : ∀ c ∈ run, p c)
    (stop : StopsAt p rest) : (run ++ rest).takeWhile p = run := by
  rw [List.takeWhile_append_of_pos all]
  cases rest with
  | nil => simp
  | cons c rest => rw [List.takeWhile_cons_of_neg (by simp [stop c rfl]), List.append_nil]

namespace Trial

theorem one_of_stopsAt {p : Char → Bool} {t : Text} (stop : StopsAt p t) :
    one p t = ⟨none, [t]⟩ := by
  cases t with
  | nil => rfl
  | cons c t => rw [one, if_neg (by simp [stop c rfl])]

theorem many_one (p : Char → Bool) (t : Text) :
    many (one p) t = ⟨some (t.takeWhile p, t.dropWhile p), [t.dropWhile p]⟩ := by
  induction t with
  | nil => rw [many, manyFrom]; rfl
  | cons c t ih =>
    rw [many] at ih ⊢
    rw [manyFrom]
    by_cases found : p c
    · simp [one, found, ih]
    · simp [one, found]

theorem bind_none {α β : Type} {p : Trial α} {next : α → Trial β} {t : Text} {failed : List Text}
    (h : p t = ⟨none, failed⟩) : p.bind next t = ⟨none, failed⟩ := by
  simp [bind, h]

theorem bind_some {α β : Type} {p : Trial α} {next : α → Trial β} {t rest : Text} {a : α}
    {failed : List Text} (h : p t = ⟨some (a, rest), failed⟩) :
    p.bind next t = ⟨(next a rest).outcome, failed ++ (next a rest).failed⟩ := by
  simp [bind, h]

theorem someOf_of_stopsAt {p : Char → Bool} {t : Text} (stop : StopsAt p t) :
    someOf p t = ⟨none, [t]⟩ :=
  bind_none (one_of_stopsAt stop)

theorem someOf_run {p : Char → Bool} {run rest : Text} (ne : run ≠ []) (all : ∀ c ∈ run, p c)
    (stop : StopsAt p rest) : someOf p (run ++ rest) = ⟨some (run, rest), [rest]⟩ := by
  obtain ⟨c, run, rfl⟩ := List.exists_cons_of_ne_nil ne
  obtain ⟨first, later⟩ := List.forall_mem_cons.1 all
  have begins : one p (c :: (run ++ rest)) = ⟨some (c, run ++ rest), []⟩ := by simp [one, first]
  rw [List.cons_append, someOf, bind_some begins, map, many_one, takeWhile_of_stopsAt later stop,
    dropWhile_of_stopsAt later stop]
  rfl

theorem quoted_of_ne {quote : Char} {t : Text} (other : ∀ c ∈ t.head?, c ≠ quote) :
    quoted quote t = ⟨none, [t]⟩ :=
  bind_none (one_of_stopsAt fun c hc => decide_eq_false (other c hc))

theorem quoted_cons {quote : Char} {content rest : Text} (free : quote ∉ content)
    (stop : StopsAt (· ≠ quote) rest) :
    quoted quote (quote :: (content ++ rest)) =
      ⟨(one (· = quote) rest).outcome.map fun (_, rest) => (quote :: content ++ [quote], rest),
        rest :: (one (· = quote) rest).failed⟩ := by
  have opens : one (· = quote) (quote :: (content ++ rest)) =
      ⟨some (quote, content ++ rest), []⟩ := by
    simp [one]
  have plain : ∀ c ∈ content, decide (c ≠ quote) = true := by
    intro c hc
    simp only [ne_eq, decide_not, Bool.not_eq_eq_eq_not, Bool.not_true, decide_eq_false_iff_not]
    rintro rfl
    exact free hc
  have inside := many_one (fun c => decide (c ≠ quote)) (content ++ rest)
  rw [takeWhile_of_stopsAt plain stop, dropWhile_of_stopsAt plain stop] at inside
  rw [quoted, bind_some opens, bind_some inside]
  rfl

theorem quoted_closed {quote : Char} {content rest : Text} (free : quote ∉ content) :
    quoted quote (quote :: (content ++ quote :: rest)) =
      ⟨some (quote :: content ++ [quote], rest), [quote :: rest]⟩ := by
  rw [quoted_cons free (by simp [StopsAt])]
  simp [one]

theorem quoted_open {quote : Char} {content : Text} (free : quote ∉ content) :
    quoted quote (quote :: content) = ⟨none, [[], []]⟩ := by
  have ended : StopsAt (· ≠ quote) [] := by simp [StopsAt]
  have nothing := quoted_cons free ended
  rw [List.append_nil] at nothing
  rw [nothing]
  rfl

theorem orElse_some {α : Type} {p q : Trial α} {t : Text} {found : α × Text} {failed : List Text}
    (h : p t = ⟨some found, failed⟩) : p.orElse q t = ⟨some found, failed⟩ := by
  simp [orElse, h]

theorem orElse_none {α : Type} {p q : Trial α} {t : Text} {outcome : Option (α × Text)}
    {first second : List Text} (h : p t = ⟨none, first⟩) (other : q t = ⟨outcome, second⟩) :
    p.orElse q t = ⟨outcome, first ++ second⟩ := by
  simp [orElse, h, other]

theorem value_of_ne {t : Text} (other : ∀ c ∈ t.head?, c ≠ '"' ∧ c ≠ '\'') :
    value t = ⟨none, [t, t]⟩ :=
  orElse_none (quoted_of_ne fun c hc => (other c hc).1) (quoted_of_ne fun c hc => (other c hc).2)

theorem value_closed {quote : Char} (isQuote : quote = '"' ∨ quote = '\'') {content : Text}
    (free : quote ∉ content) (rest : Text) :
    ∃ failed, value (quote :: (content ++ quote :: rest)) =
        ⟨some (quote :: content ++ [quote], rest), failed⟩ ∧
      ∀ place ∈ failed, rest.length ≤ place.length := by
  rcases isQuote with rfl | rfl
  · exact ⟨_, orElse_some (quoted_closed free), by simp⟩
  · refine ⟨_, orElse_none (quoted_of_ne (by simp)) (quoted_closed free), ?_⟩
    simp
    omega

theorem value_open {quote : Char} (isQuote : quote = '"' ∨ quote = '\'') {content : Text}
    (free : quote ∉ content) :
    ∃ failed, value (quote :: content) = ⟨none, failed⟩ ∧ [] ∈ failed := by
  rcases isQuote with rfl | rfl
  · exact ⟨_, orElse_none (quoted_open free) (quoted_of_ne (by simp)), by simp⟩
  · exact ⟨_, orElse_none (quoted_of_ne (by simp)) (quoted_open free), by simp⟩

end Trial

theorem exists_blanks (t : Text) : ∃ b : Blanks, t = b ++ Text.skipBlanks t :=
  ⟨⟨t.takeWhile Text.isBlank, fun _ hc => List.mem_takeWhile_imp hc⟩,
    List.takeWhile_append_dropWhile.symm⟩

theorem stopsAt_skipBlanks (t : Text) : StopsAt Text.isBlank (Text.skipBlanks t) :=
  stopsAt_dropWhile Text.isBlank t

namespace ListState

/-- The state cannot go on with the text, and may not end. -/
def StuckAt (state : ListState) (far : Text) : Prop :=
  state.result = none ∧ ∀ c ∈ far.head?, state.step c = none

theorem reads_name {n : Text} (done : List Attribute) (ne : n ≠ [])
    (all : ∀ c ∈ n, Attribute.isNameChar c) : Reads step (gap done) n (name done n.reverse) := by
  obtain ⟨c, n, rfl⟩ := List.exists_cons_of_ne_nil ne
  obtain ⟨first, later⟩ := List.forall_mem_cons.1 all
  have begins : step (gap done) c = some (name done [c]) := by
    simp [step, isBlank_of_isNameChar first, first]
  have more := reads_name_more done [c] n later
  rw [List.reverse_cons]
  exact Reads.cons begins more

theorem stuck_after_name {far : Text} (done : List Attribute) (read : Text) (b : Blanks)
    (name_ends : StopsAt Attribute.isNameChar (b ++ far)) (visible : StopsAt Text.isBlank far)
    (other : ∀ c ∈ far.head?, c ≠ '=') :
    ∃ state, Reads step (name done read) b state ∧ state.StuckAt far := by
  obtain ⟨t, blank⟩ := b
  cases t with
  | nil =>
    refine ⟨name done read, Reads.nil, rfl, fun c hc => ?_⟩
    simp [step, name_ends c hc, visible c hc, other c hc]
  | cons c t =>
    obtain ⟨first, later⟩ := List.forall_mem_cons.1 blank
    have leaves : step (name done read) c = some (named done read.reverse) := by
      simp [step, first, isNameChar_of_isBlank first]
    have stays : Reads step (named done read.reverse) t (named done read.reverse) :=
      Reads.stay fun d hd => by simp [step, later d hd]
    refine ⟨named done read.reverse, Reads.cons leaves stays, rfl, fun d hd => ?_⟩
    simp [step, visible d hd, other d hd]

theorem reads_upto_value (done : List Attribute) (n : Text) (b b' : Blanks) :
    Reads step (name done n.reverse) (b ++ '=' :: b') (equals done n) := by
  have equals := reads_equals done n.reverse b
  rw [List.reverse_reverse] at equals
  have upto := equals.append (reads_blanks_equals done n b')
  rwa [List.append_assoc] at upto

theorem stuck_before_value {far : Text} (done : List Attribute) (n : Text)
    (visible : StopsAt Text.isBlank far) (other : ∀ c ∈ far.head?, c ≠ '"' ∧ c ≠ '\'') :
    (equals done n).StuckAt far := by
  refine ⟨rfl, fun c hc => ?_⟩
  simp [step, visible c hc, other c hc]

theorem stuck_in_value {quote : Char} (isQuote : quote = '"' ∨ quote = '\'') {content : Text}
    (free : quote ∉ content) (done : List Attribute) (n : Text) :
    ∃ state, Reads step (equals done n) (quote :: content) state ∧ state.StuckAt [] := by
  have visible : Text.isBlank quote = false := by
    rcases isQuote with rfl | rfl <;> decide
  have opens : step (equals done n) quote = some (value done n quote [quote]) := by
    simp [step, visible, isQuote]
  exact ⟨_, Reads.cons opens (reads_content done n [quote] content free), rfl, by simp⟩

end ListState

/-- An attribute is begun at the start of a text and cannot be read on from a place within it. -/
structure StopsWithin (t far : Text) : Prop where
  begins : ∃ c rest, Text.skipBlanks t = c :: rest ∧ Attribute.isNameChar c ∧
    far.length ≤ rest.length
  stops : ∃ front, t = front ++ far ∧
    ∀ done, ∃ state, Reads ListState.step (.gap done) front state ∧ state.StuckAt far

theorem stopsAt_quote {quote : Char} (isQuote : quote = '"' ∨ quote = '\'') (t : Text) :
    StopsAt Text.isBlank (quote :: t) := by
  rintro c ⟨⟩
  rcases isQuote with rfl | rfl <;> decide

/-- What can follow a name: the parts of an attribute as far as they are there. -/
inductive AfterName : Text → Prop
  | noEquals (b : Blanks) {far : Text} (visible : StopsAt Text.isBlank far)
      (other : ∀ c ∈ far.head?, c ≠ '=') : AfterName (b ++ far)
  | noValue (b b' : Blanks) {far : Text} (visible : StopsAt Text.isBlank far)
      (other : ∀ c ∈ far.head?, c ≠ '"' ∧ c ≠ '\'') : AfterName (b ++ '=' :: (b' ++ far))
  | unclosed (b b' : Blanks) {quote : Char} (isQuote : quote = '"' ∨ quote = '\'')
      {content : Text} (free : quote ∉ content) : AfterName (b ++ '=' :: (b' ++ quote :: content))
  | closed (b b' : Blanks) {quote : Char} (isQuote : quote = '"' ∨ quote = '\'')
      {content : Text} (free : quote ∉ content) (rest : Text) :
      AfterName (b ++ '=' :: (b' ++ quote :: (content ++ quote :: rest)))

theorem AfterName.ofValue (b b' : Blanks) {quote : Char} (isQuote : quote = '"' ∨ quote = '\'')
    (t : Text) : AfterName (b ++ '=' :: (b' ++ quote :: t)) := by
  by_cases closes : quote ∈ t
  · obtain ⟨content, rest, rfl, free⟩ := List.eq_append_cons_of_mem closes
    exact closed b b' isQuote free rest
  · exact unclosed b b' isQuote closes

theorem afterName (t : Text) : AfterName t := by
  obtain ⟨b, split⟩ := exists_blanks t
  have visible := stopsAt_skipBlanks t
  cases far : Text.skipBlanks t with
  | nil =>
    rw [split, far]
    exact .noEquals b (by simp [StopsAt]) (by simp)
  | cons c rest =>
    rw [far] at split visible
    by_cases isEquals : c = '='
    · obtain ⟨b', split'⟩ := exists_blanks rest
      have visible' := stopsAt_skipBlanks rest
      rw [split, isEquals, split']
      cases far' : Text.skipBlanks rest with
      | nil => exact .noValue b b' (by simp [StopsAt]) (by simp)
      | cons d rest' =>
        by_cases isQuote : d = '"' ∨ d = '\''
        · exact .ofValue b b' isQuote rest'
        · rw [far'] at visible'
          refine .noValue b b' visible' fun e he => ?_
          obtain rfl : d = e := by simpa using he
          exact not_or.1 isQuote
    · rw [split]
      refine .noEquals b visible fun d hd => ?_
      obtain rfl : c = d := by simpa using hd
      exact isEquals

theorem skipBlanks_append (b : Blanks) {t : Text} (visible : StopsAt Text.isBlank t) :
    Text.skipBlanks (b ++ t) = t :=
  dropWhile_of_stopsAt b.2 visible

namespace Trial

theorem padded_one_none {p : Char → Bool} (b : Blanks) {far : Text}
    (visible : StopsAt Text.isBlank far) (stop : StopsAt p far) :
    padded (one p) (b ++ far) = ⟨none, [far]⟩ := by
  rw [padded, skipBlanks_append b visible, one_of_stopsAt stop]
  rfl

theorem padded_one_some {c : Char} (visible : Text.isBlank c = false) (b b' : Blanks) {far : Text}
    (visible' : StopsAt Text.isBlank far) :
    padded (one (· = c)) (b ++ c :: (b' ++ far)) = ⟨some (c, far), []⟩ := by
  rw [padded, skipBlanks_append b (by simpa [StopsAt] using visible)]
  simp [one, skipBlanks_append b' visible']

variable (n : Text)

theorem assigned_noEquals (b : Blanks) {far : Text} (visible : StopsAt Text.isBlank far)
    (other : ∀ c ∈ far.head?, c ≠ '=') : assigned n (b ++ far) = ⟨none, [far]⟩ :=
  bind_none (padded_one_none b visible fun c hc => decide_eq_false (other c hc))

theorem assigned_value (b b' : Blanks) {t : Text} (visible : StopsAt Text.isBlank t) :
    assigned n (b ++ '=' :: (b' ++ t)) = value.map (fun value => ⟨n, value⟩) t :=
  bind_some (padded_one_some (by decide) b b' visible)

end Trial

/-- What the attempt at an attribute with blanks around it comes to. -/
inductive FirstAttempt : Text → Attempt Attribute → Prop
  | written (w : WrittenAttribute) {rest : Text} (visible : StopsAt Text.isBlank rest)
      {failed : List Text} (earlier : ∀ place ∈ failed, rest.length ≤ place.length) :
      FirstAttempt (w.text ++ rest) ⟨some (w.toAttribute, rest), failed⟩
  | noName (b : Blanks) {far : Text} (visible : StopsAt Text.isBlank far)
      (other : StopsAt Attribute.isNameChar far) : FirstAttempt (b ++ far) ⟨none, [far]⟩
  | within {t far : Text} {failed : List Text} (stops : StopsWithin t far)
      (furthest : Furthest far failed) : FirstAttempt t ⟨none, failed⟩

namespace FirstAttempt

variable (b : Blanks) {n : Text} (ne : n ≠ []) (all : ∀ c ∈ n, Attribute.isNameChar c)

include ne all

theorem stopsAt_name (rest : Text) : StopsAt Text.isBlank (n ++ rest) := by
  obtain ⟨c, n, rfl⟩ := List.exists_cons_of_ne_nil ne
  simpa [StopsAt] using isBlank_of_isNameChar (all c (by simp))

theorem padded_named {rest : Text} (stop : StopsAt Attribute.isNameChar rest) :
    Trial.padded Trial.namedValue (b ++ (n ++ rest)) =
      ⟨(Trial.assigned n rest).outcome.map fun (a, rest) => (a, Text.skipBlanks rest),
        rest :: (Trial.assigned n rest).failed⟩ := by
  rw [Trial.padded, skipBlanks_append b (stopsAt_name ne all rest), Trial.namedValue,
    Trial.bind_some (Trial.someOf_run ne all stop)]
  rfl

theorem stopsWithin_named {front far : Text}
    (stuck : ∀ done, ∃ state, Reads ListState.step (.name done n.reverse) front state ∧
      state.StuckAt far) : StopsWithin (b ++ (n ++ (front ++ far))) far where
  begins := by
    have skipped := skipBlanks_append b (stopsAt_name ne all (front ++ far))
    obtain ⟨c, n, rfl⟩ := List.exists_cons_of_ne_nil ne
    refine ⟨c, n ++ (front ++ far), skipped, all c (by simp), ?_⟩
    simp only [List.length_append]
    omega
  stops := by
    refine ⟨b ++ (n ++ front), by simp only [List.append_assoc], fun done => ?_⟩
    obtain ⟨state, reads, stuck⟩ := stuck done
    have named := ListState.reads_name done ne all
    exact ⟨state, (ListState.reads_blanks_gap done b).append (named.append reads), stuck⟩

theorem ofName {rest : Text} (stop : StopsAt Attribute.isNameChar rest) :
    FirstAttempt (b ++ (n ++ rest)) (Trial.padded Trial.namedValue (b ++ (n ++ rest))) := by
  rw [padded_named b ne all stop]
  cases afterName rest with
  | @noEquals b' far visible other =>
    have within := stopsWithin_named b ne all fun done =>
      ListState.stuck_after_name done n.reverse b' stop visible other
    rw [Trial.assigned_noEquals n b' visible other]
    exact .within within ⟨by simp, by simp⟩
  | @noValue b' b'' far visible other =>
    have within := stopsWithin_named b ne all fun done =>
      ⟨_, ListState.reads_upto_value done n b' b'',
        ListState.stuck_before_value done n visible other⟩
    rw [Trial.assigned_value n b' b'' visible, Trial.map, Trial.value_of_ne other]
    rw [List.append_assoc, List.cons_append] at within
    refine .within within ⟨by simp, ?_⟩
    simp
    omega
  | @unclosed b' b'' quote isQuote content free =>
    have visible := stopsAt_quote isQuote content
    obtain ⟨failed, tried, ended⟩ := Trial.value_open isQuote free
    have within :
        StopsWithin (b.1 ++ (n ++ (b'.1 ++ '=' :: b''.1 ++ quote :: content ++ []))) [] := by
      refine stopsWithin_named b ne all fun done => ?_
      obtain ⟨state, opened, stuck⟩ := ListState.stuck_in_value isQuote free done n
      exact ⟨state, (ListState.reads_upto_value done n b' b'').append opened, stuck⟩
    rw [Trial.assigned_value n b' b'' visible, Trial.map, tried]
    rw [List.append_nil, List.append_assoc, List.cons_append] at within
    exact .within within ⟨by simp [ended], by simp⟩
  | @closed b' b'' quote isQuote content free rest =>
    have visible := stopsAt_quote isQuote (content ++ quote :: rest)
    obtain ⟨failed, tried, earlier⟩ := Trial.value_closed isQuote free rest
    rw [Trial.assigned_value n b' b'' visible, Trial.map, tried]
    obtain ⟨after, split⟩ := exists_blanks rest
    have later := stopsAt_skipBlanks rest
    simp only [Option.map_some]
    generalize Text.skipBlanks rest = left at split later
    let w : WrittenAttribute :=
      ⟨b, n, ne, all, b', b'', quote, isQuote, content, free, after⟩
    have text : b ++ (n ++ (b' ++ '=' :: (b'' ++ quote :: (content ++ quote :: rest)))) =
        w.text ++ left := by
      rw [split]
      simp [w, WrittenAttribute.text, WrittenAttribute.value]
    have short : left.length ≤ rest.length := by simp [split]
    rw [text]
    refine .written w later fun place hp => ?_
    rcases List.mem_cons.1 hp with rfl | hp
    · simp
      omega
    · exact le_trans short (earlier place hp)

end FirstAttempt

theorem firstAttempt (t : Text) : FirstAttempt t (Trial.padded Trial.namedValue t) := by
  obtain ⟨b, split⟩ := exists_blanks t
  have visible := stopsAt_skipBlanks t
  generalize Text.skipBlanks t = t' at split visible
  subst split
  by_cases ne : t'.takeWhile Attribute.isNameChar = []
  · have other : StopsAt Attribute.isNameChar t' := by
      have stop := stopsAt_dropWhile Attribute.isNameChar t'
      have same := List.takeWhile_append_dropWhile (p := Attribute.isNameChar) (l := t')
      rw [ne, List.nil_append] at same
      rwa [same] at stop
    have tried : Trial.padded Trial.namedValue (b ++ t') = ⟨none, [t']⟩ := by
      rw [Trial.padded, skipBlanks_append b visible, Trial.namedValue,
        Trial.bind_none (Trial.someOf_of_stopsAt other)]
      rfl
    rw [tried]
    exact .noName b visible other
  · have named := FirstAttempt.ofName b ne (fun c hc => List.mem_takeWhile_imp hc)
      (stopsAt_dropWhile Attribute.isNameChar t')
    rwa [List.takeWhile_append_dropWhile] at named

/-- Where the attempts at attributes end: what is left of the text begins no attribute, or one that
breaks off, and the furthest failure is there. -/
inductive LastAttempt (failed : List Text) : Text → Prop
  | noName (b : Blanks) {far : Text} (visible : StopsAt Text.isBlank far)
      (other : StopsAt Attribute.isNameChar far) (furthest : Furthest far failed) :
      LastAttempt failed (b ++ far)
  | within {t far : Text} (stops : StopsWithin t far) (furthest : Furthest far failed) :
      LastAttempt failed t

theorem LastAttempt.after {failed earlier : List Text} {t : Text} (h : LastAttempt failed t)
    (late : ∀ place ∈ earlier, t.length ≤ place.length) : LastAttempt (earlier ++ failed) t := by
  cases h with
  | @noName b far visible other furthest =>
    refine .noName b visible other (furthest.append_left fun place hp => ?_)
    have := late place hp
    simp only [List.length_append] at this
    omega
  | within stops furthest =>
    refine .within stops (furthest.append_left fun place hp => ?_)
    obtain ⟨front, rfl, -⟩ := stops.stops
    have := late place hp
    simp only [List.length_append] at this
    omega

theorem WrittenAttribute.length_text_pos (w : WrittenAttribute) : 0 < w.text.length := by
  simp only [text, value, List.length_append, List.length_cons, List.length_nil]
  omega

theorem attributes_cases (t : Text) : ∃ (written : List WrittenAttribute) (rest : Text)
    (failed : List Text), Trial.attributes t =
        ⟨some (written.map WrittenAttribute.toAttribute, rest), failed⟩ ∧
      t = written.flatMap WrittenAttribute.text ++ rest ∧
      (written ≠ [] → StopsAt Text.isBlank rest) ∧ LastAttempt failed rest := by
  induction size : t.length using Nat.strong_induction_on generalizing t with
  | _ size ih =>
    have first := firstAttempt t
    rw [Trial.attributes, Trial.many, Trial.manyFrom]
    generalize tried : Trial.padded Trial.namedValue t = attempt at first
    cases first with
    | @written w rest visible failed earlier =>
      have shorter : rest.length < (w.text ++ rest).length := by
        have := w.length_text_pos
        simp only [List.length_append]
        omega
      obtain ⟨more, left, failed', later, split, ends, last⟩ := ih _ (size ▸ shorter) rest rfl
      rw [Trial.attributes, Trial.many] at later
      simp only [if_pos shorter, later]
      refine ⟨w :: more, left, _, rfl, ?_, ?_, ?_⟩
      · rw [List.flatMap_cons, List.append_assoc, ← split]
      · intro _
        by_cases none_left : more = []
        · subst none_left
          obtain rfl : rest = left := split
          exact visible
        · exact ends none_left
      · refine last.after fun place hp => ?_
        have := earlier place hp
        rw [split, List.length_append] at this
        omega
    | @noName b far visible other =>
      exact ⟨[], _, _, rfl, rfl, by simp, .noName b visible other ⟨by simp, by simp⟩⟩
    | within stops furthest =>
      exact ⟨[], t, _, rfl, rfl, by simp, .within stops furthest⟩

end JspEndpoint.Template
