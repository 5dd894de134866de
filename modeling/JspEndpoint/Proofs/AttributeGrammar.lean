import JspEndpoint.Proofs.AttributeAttempts

/-!
The bodies that can be read, as a grammar. A tag is its attributes as they are written, with nothing
or a slash behind them; a directive is an identifier with blanks around it, and attributes. The
readers accept exactly these bodies and find what was written. A body outside the grammar is rejected
at the furthest place that attempts to read it come to.
-/

namespace JspEndpoint.Template

namespace Trial

theorem finish_of_ne_nil {t : Text} (ne : t ≠ []) : finish t = ⟨none, [t]⟩ := by
  obtain ⟨c, t, rfl⟩ := List.exists_cons_of_ne_nil ne
  rfl

variable (found : List Attribute)

theorem closing_slash (b b' : Blanks) {far : Text} (visible : StopsAt Text.isBlank far) :
    closing found (b ++ '/' :: (b' ++ far)) = finish.map (fun _ => found) far := by
  have slash := padded_one_some (c := '/') (by decide) b b' visible
  rw [closing, bind_some (show optional (padded (one (· = '/'))) _ = ⟨some (some '/', far), []⟩ by
    rw [optional, slash])]
  rfl

theorem closing_other (b : Blanks) {far : Text} (visible : StopsAt Text.isBlank far)
    (other : ∀ c ∈ far.head?, c ≠ '/') :
    closing found (b ++ far) =
      ⟨(finish (b ++ far)).outcome.map fun (_, rest) => (found, rest),
        far :: (finish (b ++ far)).failed⟩ := by
  have slash := padded_one_none b visible fun c hc => decide_eq_false (other c hc)
  rw [closing, bind_some (show optional (padded (one (· = '/'))) _ = ⟨some (none, b ++ far), [far]⟩ by
    rw [optional, slash])]
  rfl

end Trial

theorem Machine.read_of_stuck {σ α : Type} {m : Machine σ α} {state : σ} {front far : Text}
    (reads : Reads m.step m.start front state) (ended : far = [] → m.result state = none)
    (stuck : ∀ c ∈ far.head?, m.step state c = none) :
    m.read (front ++ far) = .error ⟨front.length, far.head?⟩ := by
  rw [read, m.run_of_reads reads, Nat.zero_add]
  cases far with
  | nil => simp [run, ended rfl]
  | cons c far => simp [run, stuck c rfl]

/-- Attempts and a reader reject a body at the same place, and no attempt got further. -/
def RejectedAlike {α : Type} (trial : Trial α) (read : Text → Except Failure α) (body : Text) :
    Prop :=
  ∃ front far, body = front ++ far ∧ (trial body).outcome = none ∧
    Furthest far (trial body).failed ∧ read body = .error ⟨front.length, far.head?⟩

namespace TagState

theorem reads_first {start : TagState} (at_start : start = fresh ∨ start = blank) {front : Text}
    {state : ListState} (reads : Reads ListState.step (.gap []) front state)
    (inside : state.result = none) : Reads step start front (list state) := by
  -- At the start of a body blanks are counted apart, which the first name makes up for.
  induction front generalizing start with
  | nil =>
    obtain rfl : ListState.gap [] = state := Option.some.inj reads
    cases inside
  | cons c front ih =>
    have same : step start c = if Text.isBlank c then some blank else stepGap [] c := by
      rcases at_start with rfl | rfl <;> rfl
    cases first : ListState.step (.gap []) c with
    | none => simp [Reads, first] at reads
    | some middle =>
      have later : Reads ListState.step middle front state := by
        simpa [Reads, first] using reads
      by_cases isBlank : Text.isBlank c
      · obtain rfl : ListState.gap [] = middle := by simpa [ListState.step, isBlank] using first
        exact Reads.cons (by rw [same, if_pos isBlank]) (ih (.inr rfl) later)
      · have begins : step start c = some (list middle) := by
          have goes : step (list (.gap [])) c = some (list middle) := step_list first
          rwa [same, if_neg isBlank]
        exact Reads.cons begins (later.map list step_list)

theorem reads_blanks_fresh {b : Blanks} (ne : b.1 ≠ []) : Reads step fresh b blank := by
  obtain ⟨t, blanks⟩ := b
  obtain ⟨c, t, rfl⟩ := List.exists_cons_of_ne_nil ne
  obtain ⟨first, later⟩ := List.forall_mem_cons.1 blanks
  have enters : step fresh c = some blank := by simp [step, first]
  exact Reads.cons enters (Reads.stay fun d hd => by simp [step, later d hd])

theorem step_list_none {state : ListState} {c : Char} (inside : state.result = none)
    (stuck : state.step c = none) : step (list state) c = none := by
  cases state with
  | gap done => cases inside
  | _ => simp [step, stuck]

theorem reads_of_list (done : List Attribute) {front : Text} {state : ListState}
    (reads : Reads ListState.step (.gap done) front state) (inside : state.result = none) :
    Reads step (between done) front (list state) := by
  cases done with
  | nil => exact reads_first (.inl rfl) reads inside
  | cons a done => exact reads.map list step_list

theorem stuck_between (done : List Attribute) (b : Blanks) {far : Text}
    (visible : StopsAt Text.isBlank far) (other : StopsAt Attribute.isNameChar far)
    (no_slash : ∀ c ∈ far.head?, c ≠ '/') :
    ∃ state, Reads step (between done) b state ∧ ∀ c ∈ far.head?, step state c = none := by
  obtain ⟨state, reads, goes⟩ := reads_blanks_between done b
  refine ⟨state, reads, fun c hc => ?_⟩
  rw [goes c (visible c hc)]
  simp [stepGap, ListState.step, visible c hc, other c hc, no_slash c hc]

end TagState

theorem eq_nil_of_stopsAt {b : Blanks} (stop : StopsAt Text.isBlank b) : b.1 = [] := by
  obtain ⟨t, blanks⟩ := b
  cases t with
  | nil => rfl
  | cons c t =>
    have blank := blanks c (by simp)
    rw [stop c rfl] at blank
    cases blank

/-- The body of a tag as it is written. -/
structure WrittenTagBody where
  attributes : List WrittenAttribute
  ending : TagEnding

namespace WrittenTagBody

def text (w : WrittenTagBody) : Text := w.attributes.flatMap WrittenAttribute.text ++ w.ending.text

def found (w : WrittenTagBody) : List Attribute := w.attributes.map WrittenAttribute.toAttribute

end WrittenTagBody

theorem TagState.reads_written (written : List WrittenAttribute) :
    Reads step fresh (written.flatMap WrittenAttribute.text)
      (between (written.map WrittenAttribute.toAttribute).reverse) := by
  have reads := reads_attributes [] written
  rwa [List.append_nil] at reads

/-- The body of a tag is written in the grammar, or attempts and reader reject it alike. -/
def TagCases (body : Text) : Prop :=
  (∃ w : WrittenTagBody, body = w.text ∧ (Trial.tag body).outcome = some (w.found, [])) ∨
    RejectedAlike Trial.tag readTag body

section Tags

variable {body : Text} {written : List WrittenAttribute} {rest : Text} {failed : List Text}
  (tried : Trial.attributes body = ⟨some (written.map WrittenAttribute.toAttribute, rest), failed⟩)
  (split : body = written.flatMap WrittenAttribute.text ++ rest)

include tried

theorem tag_rejected_open {b : Blanks} {place front far : Text} (ne : rest ≠ [])
    (left : rest = b ++ place) (visible : StopsAt Text.isBlank place)
    (no_slash : ∀ c ∈ place.head?, c ≠ '/') (furthest : Furthest far failed)
    (short : far.length ≤ place.length) (cut : body = front ++ far)
    (read : readTag (front ++ far) = .error ⟨front.length, far.head?⟩) :
    RejectedAlike Trial.tag readTag body := by
  have closed := Trial.closing_other (written.map WrittenAttribute.toAttribute) b visible no_slash
  rw [← left, Trial.finish_of_ne_nil ne] at closed
  have whole : Trial.tag body = ⟨none, failed ++ [place, rest]⟩ := by
    rw [Trial.tag, Trial.bind_some tried, closed]
    rfl
  refine ⟨front, far, cut, by rw [whole], ?_, cut ▸ read⟩
  rw [whole]
  refine furthest.append_right fun other hp => ?_
  have longer : place.length ≤ rest.length := by simp [left]
  rcases List.mem_cons.1 hp with rfl | hp
  · exact short
  · rw [List.mem_singleton.1 hp]
    omega

include split

theorem tag_of_within {far : Text} (stops : StopsWithin rest far) (furthest : Furthest far failed) :
    RejectedAlike Trial.tag readTag body := by
  obtain ⟨c, later, skipped, isName, short⟩ := stops.begins
  obtain ⟨front, cut, stuck⟩ := stops.stops
  obtain ⟨b, left⟩ := exists_blanks rest
  have visible := stopsAt_skipBlanks rest
  rw [skipped] at left visible
  have no_slash : ∀ d ∈ (c :: later).head?, d ≠ '/' := by
    rintro d ⟨⟩ rfl
    cases isName
  obtain ⟨state, reads, inside, stuck⟩ :=
    stuck (written.map WrittenAttribute.toAttribute).reverse
  have whole := (TagState.reads_written written).append (TagState.reads_of_list _ reads inside)
  refine tag_rejected_open tried (by simp [left]) left visible no_slash furthest
    (Nat.le_succ_of_le short) ?_ (Machine.read_of_stuck whole (fun _ => inside) ?_)
  · rw [split, cut, List.append_assoc]
  · intro d hd
    exact TagState.step_list_none inside (stuck d hd)

theorem tag_of_blanks {b : Blanks} (left : rest = b) (furthest : Furthest [] failed)
    (ends : written ≠ [] → StopsAt Text.isBlank rest) : TagCases body := by
  by_cases none_left : rest = []
  · refine .inl ⟨⟨written, .plain⟩, by rw [split, none_left]; rfl, ?_⟩
    rw [Trial.tag, Trial.bind_some tried, none_left]
    rfl
  · have first : written = [] := by
      by_contra some_written
      have stop := ends some_written
      rw [left] at stop none_left
      exact none_left (eq_nil_of_stopsAt stop)
    have whole : body = b.1 ++ [] := by
      rw [split, first, left, List.append_nil]
      rfl
    refine .inr (tag_rejected_open tried none_left (by rw [left, List.append_nil]) (by simp [StopsAt])
      (by simp) furthest le_rfl whole ?_)
    exact Machine.read_of_stuck (TagState.reads_blanks_fresh (left ▸ none_left)) (fun _ => rfl)
      (by simp)

theorem tag_of_slash {b b' : Blanks} {far : Text} (left : rest = b ++ '/' :: (b' ++ far))
    (visible : StopsAt Text.isBlank far) (late : ∀ place ∈ failed, far.length ≤ place.length) :
    TagCases body := by
  have closed := Trial.closing_slash (written.map WrittenAttribute.toAttribute) b b' visible
  rw [← left] at closed
  have reads := (TagState.reads_written written).append
    (TagState.reads_slash (written.map WrittenAttribute.toAttribute).reverse b b')
  have cut : body = written.flatMap WrittenAttribute.text ++ (b ++ ['/'] ++ b') ++ far := by
    simp only [split, left, List.append_assoc, List.cons_append, List.nil_append]
  by_cases none_left : far = []
  · subst none_left
    refine .inl ⟨⟨written, .slash b b'⟩, by rw [cut, List.append_nil]; rfl, ?_⟩
    rw [Trial.tag, Trial.bind_some tried, closed]
    rfl
  · have whole : Trial.tag body = ⟨none, failed ++ [far]⟩ := by
      rw [Trial.tag, Trial.bind_some tried, closed, Trial.map, Trial.finish_of_ne_nil none_left]
      rfl
    refine .inr ⟨_, far, cut, by rw [whole], ?_, ?_⟩
    · rw [whole]
      exact Furthest.append_left ⟨by simp, by simp⟩ late
    · rw [cut]
      refine Machine.read_of_stuck reads (fun ended => absurd ended none_left) fun c hc => ?_
      have visible_c := visible c hc
      exact if_neg (by simp [visible_c])

theorem tag_of_other {b : Blanks} {far : Text} (left : rest = b ++ far) (ne : far ≠ [])
    (visible : StopsAt Text.isBlank far) (other : StopsAt Attribute.isNameChar far)
    (no_slash : ∀ c ∈ far.head?, c ≠ '/') (furthest : Furthest far failed) :
    RejectedAlike Trial.tag readTag body := by
  obtain ⟨state, reads, stuck⟩ := TagState.stuck_between
    (written.map WrittenAttribute.toAttribute).reverse b visible other no_slash
  refine tag_rejected_open tried (by simp [left, ne]) left visible no_slash furthest le_rfl ?_
    (Machine.read_of_stuck ((TagState.reads_written written).append reads)
      (fun ended => absurd ended ne) stuck)
  rw [split, left, List.append_assoc]

end Tags

theorem tag_cases (body : Text) : TagCases body := by
  obtain ⟨written, rest, failed, tried, split, ends, last⟩ := attributes_cases body
  cases last with
  | @noName b far visible other furthest =>
    cases far with
    | nil => exact tag_of_blanks tried split (List.append_nil b.1) furthest ends
    | cons c far =>
      by_cases slash : c = '/'
      · obtain ⟨b', left⟩ := exists_blanks far
        refine tag_of_slash tried split (by rw [slash, ← left]) (stopsAt_skipBlanks far) ?_
        intro place hp
        have longer := furthest.2 place hp
        rw [left, List.length_cons, List.length_append] at longer
        omega
      · exact .inr
          (tag_of_other tried split rfl (by simp) visible other (by simpa using slash) furthest)
  | within stops furthest => exact .inr (tag_of_within tried split stops furthest)

/-- A letter or an underscore, then letters, digits and underscores. -/
def IsIdentifier (t : Text) : Prop :=
  ∃ c rest, t = c :: rest ∧ DirectiveState.isFirst c ∧ ∀ d ∈ rest, DirectiveState.isNext d

/-- The body of a directive as it is written. -/
structure WrittenDirectiveBody where
  before : Blanks
  name : Text
  isIdentifier : IsIdentifier name
  after : Blanks
  attributes : List WrittenAttribute
  /-- The name is as long as it can be. -/
  name_ends : StopsAt DirectiveState.isNext (after ++ attributes.flatMap WrittenAttribute.text)

namespace WrittenDirectiveBody

def text (w : WrittenDirectiveBody) : Text :=
  w.before ++ (w.name ++ (w.after ++ w.attributes.flatMap WrittenAttribute.text))

def found (w : WrittenDirectiveBody) : Directive :=
  ⟨w.name, w.attributes.map WrittenAttribute.toAttribute⟩

end WrittenDirectiveBody

theorem isNameChar_of_isNext {c : Char} (h : DirectiveState.isNext c) : Attribute.isNameChar c := by
  simp only [DirectiveState.isNext, Bool.or_eq_true] at h
  rcases h with alphanum | under
  · simp [Attribute.isNameChar, alphanum]
  · simp_all [Attribute.isNameChar]

theorem isNext_of_isFirst {c : Char} (h : DirectiveState.isFirst c) : DirectiveState.isNext c := by
  simp only [DirectiveState.isFirst, Bool.or_eq_true] at h
  rcases h with alpha | under
  · simp [DirectiveState.isNext, Char.isAlphanum, alpha]
  · simp_all [DirectiveState.isNext]

theorem isBlank_of_isFirst {c : Char} (h : DirectiveState.isFirst c) : Text.isBlank c = false :=
  isBlank_of_isNameChar (isNameChar_of_isNext (isNext_of_isFirst h))

theorem ListState.reads_written (done : List Attribute) (written : List WrittenAttribute) :
    Reads step (gap done) (written.flatMap WrittenAttribute.text)
      (gap ((written.map WrittenAttribute.toAttribute).reverse ++ done)) := by
  induction written generalizing done with
  | nil => exact Reads.nil
  | cons w written ih =>
    have name := reads_name done w.name_ne_nil w.name_chars
    have first := (reads_blanks_gap done w.before).append (name.append (reads_rest done w))
    have later := ih (w.toAttribute :: done)
    rw [List.flatMap_cons, List.map_cons, List.reverse_cons, List.append_assoc]
    exact first.append later

namespace DirectiveState

theorem reads_identifier (b : Blanks) {n : Text} (h : IsIdentifier n) :
    Reads step lead (b ++ n) (name n.reverse) := by
  obtain ⟨c, rest, rfl, first, later⟩ := h
  have blanks : Reads step lead b lead := Reads.stay fun d hd => by simp [step, b.2 d hd]
  have begins : step lead c = some (name [c]) := by simp [step, isBlank_of_isFirst first, first]
  have more : ∀ read, Reads step (name read) rest (name (rest.reverse ++ read)) := by
    induction rest with
    | nil => exact fun _ => Reads.nil
    | cons d rest ih =>
      intro read
      obtain ⟨next, later⟩ := List.forall_mem_cons.1 later
      have goes : step (name read) d = some (name (d :: read)) := by simp [step, next]
      exact Reads.cons goes (by simpa using ih later (d :: read))
  rw [List.reverse_cons]
  exact blanks.append (Reads.cons begins (more [c]))

theorem reads_within (n : Text) {front : Text} {state next : ListState}
    (reads : Reads ListState.step state front next) :
    Reads step (list n state) front (list n next) := by
  refine reads.map (list n) ?_
  intro s c s' h
  simp [step, h]

theorem reads_list (read : Text) {front : Text} {state : ListState} (ne : front ≠ [])
    (name_ends : StopsAt isNext front) (reads : Reads ListState.step (.gap []) front state) :
    Reads step (name read) front (list read.reverse state) := by
  obtain ⟨c, front, rfl⟩ := List.exists_cons_of_ne_nil ne
  cases first : ListState.step (.gap []) c with
  | none => simp [Reads, first] at reads
  | some middle =>
    have later : Reads ListState.step middle front state := by simpa [Reads, first] using reads
    have begins : step (name read) c = some (list read.reverse middle) := by
      simp [step, name_ends c rfl, first]
    exact Reads.cons begins (reads_within read.reverse later)

theorem stuck_list (n : Text) {front far : Text} {state : ListState}
    (name_ends : StopsAt isNext (front ++ far))
    (reads : Reads ListState.step (.gap []) front state) (ended : far = [] → state.result = none)
    (stuck : ∀ c ∈ far.head?, state.step c = none) :
    ∃ next, Reads step (name n.reverse) front next ∧ (far = [] → next.result = none) ∧
      ∀ c ∈ far.head?, step next c = none := by
  cases front with
  | nil =>
    obtain rfl : ListState.gap [] = state := Option.some.inj reads
    refine ⟨name n.reverse, Reads.nil, ?_, ?_⟩
    · intro none_left
      cases ended none_left
    · intro c hc
      simp [step, name_ends c hc, stuck c hc]
  | cons d front =>
    refine ⟨list n state, ?_, ?_, ?_⟩
    · have whole := reads_list n.reverse (by simp) (fun c hc => name_ends c (by simpa using hc)) reads
      rwa [List.reverse_reverse] at whole
    · intro none_left
      simp [result, ended none_left]
    · intro c hc
      simp [step, stuck c hc]

end DirectiveState

theorem readDirective_written (w : WrittenDirectiveBody) : readDirective w.text = .ok w.found := by
  have name := DirectiveState.reads_identifier w.before w.isIdentifier
  have list := (ListState.reads_blanks_gap [] w.after).append
    (ListState.reads_written [] w.attributes)
  rw [WrittenDirectiveBody.text, ← List.append_assoc]
  by_cases only_name : w.after.1 ++ w.attributes.flatMap WrittenAttribute.text = []
  · have none_written : w.attributes = [] := by
      obtain ⟨-, flat⟩ := List.append_eq_nil_iff.1 only_name
      rw [List.flatMap_eq_nil_iff] at flat
      refine List.eq_nil_iff_forall_not_mem.2 fun a ha => ?_
      have wide := a.length_text_pos
      simp [flat a ha] at wide
    rw [only_name, List.append_nil]
    refine directiveMachine.read_of_reads name ?_
    simp [directiveMachine, DirectiveState.result, WrittenDirectiveBody.found, none_written]
  · have later := DirectiveState.reads_list w.name.reverse only_name w.name_ends list
    refine directiveMachine.read_of_reads (name.append later) ?_
    simp [directiveMachine, DirectiveState.result, ListState.result, WrittenDirectiveBody.found]

namespace Trial

theorem padded_identifier_none (b : Blanks) {far : Text} (visible : StopsAt Text.isBlank far)
    (other : StopsAt DirectiveState.isFirst far) :
    padded identifier (b ++ far) = ⟨none, [far]⟩ := by
  rw [padded, skipBlanks_append b visible, identifier, bind_none (one_of_stopsAt other)]
  rfl

theorem padded_identifier_some (b b' : Blanks) {n t : Text} (h : IsIdentifier n)
    (name_ends : StopsAt DirectiveState.isNext (b' ++ t)) (visible : StopsAt Text.isBlank t) :
    padded identifier (b ++ (n ++ (b' ++ t))) = ⟨some (n, t), [b' ++ t]⟩ := by
  obtain ⟨c, rest, rfl, first, later⟩ := h
  have starts : StopsAt Text.isBlank (c :: rest ++ (b' ++ t)) := by
    rintro d ⟨⟩
    exact isBlank_of_isFirst first
  have begins : one DirectiveState.isFirst (c :: rest ++ (b' ++ t)) =
      ⟨some (c, rest ++ (b' ++ t)), []⟩ := by
    simp [one, first]
  rw [padded, skipBlanks_append b starts, identifier, bind_some begins, map, many_one,
    takeWhile_of_stopsAt later name_ends, dropWhile_of_stopsAt later name_ends]
  simp [skipBlanks_append b' visible]

end Trial

section Directives

variable (before : Blanks) {after : Blanks} {n t rest : Text} {written : List WrittenAttribute}
  {failed : List Text} (identifier : IsIdentifier n)
  (name_ends : StopsAt DirectiveState.isNext (after ++ t)) (visible : StopsAt Text.isBlank t)
  (tried : Trial.attributes t = ⟨some (written.map WrittenAttribute.toAttribute, rest), failed⟩)
  (split : t = written.flatMap WrittenAttribute.text ++ rest)

include identifier name_ends visible tried

theorem directive_eq : Trial.directive (before ++ (n ++ (after ++ t))) =
    ⟨(Trial.finish rest).outcome.map fun (_, left) =>
        (⟨n, written.map WrittenAttribute.toAttribute⟩, left),
      [after ++ t] ++ (failed ++ (Trial.finish rest).failed)⟩ := by
  rw [Trial.directive,
    Trial.bind_some (Trial.padded_identifier_some before after identifier name_ends visible),
    Trial.described, Trial.bind_some tried]
  rfl

include split

theorem directive_accepted (none_left : rest = []) :
    ∃ w : WrittenDirectiveBody, before ++ (n ++ (after ++ t)) = w.text ∧
      (Trial.directive (before ++ (n ++ (after ++ t)))).outcome = some (w.found, []) := by
  rw [directive_eq before identifier name_ends visible tried, none_left]
  rw [none_left, List.append_nil] at split
  subst split
  exact ⟨⟨before, n, identifier, after, written, name_ends⟩, rfl, rfl⟩

theorem directive_rejected {front far : Text} {state : ListState} (ne : rest ≠ [])
    (left : rest = front ++ far) (furthest : Furthest far failed)
    (reads : Reads ListState.step
      (.gap (written.map WrittenAttribute.toAttribute).reverse) front state)
    (ended : far = [] → state.result = none) (stuck : ∀ c ∈ far.head?, state.step c = none) :
    RejectedAlike Trial.directive readDirective (before ++ (n ++ (after ++ t))) := by
  have whole := directive_eq before identifier name_ends visible tried
  rw [Trial.finish_of_ne_nil ne] at whole
  have list : Reads ListState.step (.gap []) (after ++ written.flatMap WrittenAttribute.text ++ front)
      state := by
    have attributes := ListState.reads_written [] written
    rw [List.append_nil] at attributes
    exact ((ListState.reads_blanks_gap [] after).append attributes).append reads
  have behind : after ++ t = after ++ written.flatMap WrittenAttribute.text ++ front ++ far := by
    simp only [split, left, List.append_assoc]
  obtain ⟨next, later, ended, stuck⟩ :=
    DirectiveState.stuck_list n (behind ▸ name_ends) list ended stuck
  have named := DirectiveState.reads_identifier before identifier
  have cut : before ++ (n ++ (after ++ t)) =
      before ++ n ++ (after ++ written.flatMap WrittenAttribute.text ++ front) ++ far := by
    simp only [behind, List.append_assoc]
  refine ⟨_, far, cut, by rw [whole]; rfl, ?_, ?_⟩
  · rw [whole]
    refine (furthest.append_right ?_).append_left ?_
    · simp [left]
    · simp [split, left]
      omega
  · rw [cut]
    exact Machine.read_of_stuck (named.append later) ended stuck

end Directives

theorem directive_unnamed (b : Blanks) {far : Text} (visible : StopsAt Text.isBlank far)
    (other : StopsAt DirectiveState.isFirst far) :
    RejectedAlike Trial.directive readDirective (b ++ far) := by
  have tried : Trial.directive (b ++ far) = ⟨none, [far]⟩ :=
    Trial.bind_none (Trial.padded_identifier_none b visible other)
  have blanks : Reads DirectiveState.step .lead b .lead :=
    Reads.stay fun c hc => by simp [DirectiveState.step, b.2 c hc]
  refine ⟨b, far, rfl, by rw [tried], by rw [tried]; exact ⟨by simp, by simp⟩, ?_⟩
  refine Machine.read_of_stuck blanks (fun _ => rfl) fun c hc => ?_
  simp [directiveMachine, DirectiveState.step, visible c hc, other c hc]

theorem directive_named (before : Blanks) {n left : Text} (identifier : IsIdentifier n)
    (name_ends : StopsAt DirectiveState.isNext left) :
    (∃ w : WrittenDirectiveBody, before ++ (n ++ left) = w.text ∧
      (Trial.directive (before ++ (n ++ left))).outcome = some (w.found, [])) ∨
    RejectedAlike Trial.directive readDirective (before ++ (n ++ left)) := by
  obtain ⟨after, behind⟩ := exists_blanks left
  have visible := stopsAt_skipBlanks left
  generalize Text.skipBlanks left = t at behind visible
  subst behind
  obtain ⟨written, rest, failed, tried, split, ends, last⟩ := attributes_cases t
  by_cases none_left : rest = []
  · exact .inl (directive_accepted before identifier name_ends visible tried split none_left)
  · right
    cases last with
    | @noName b far visible' other furthest =>
      have stop : StopsAt Text.isBlank (b ++ far) := by
        by_cases none_written : written = []
        · subst none_written
          exact (split : t = b ++ far) ▸ visible
        · exact ends none_written
      refine directive_rejected before identifier name_ends visible tried split none_left rfl furthest
        (ListState.reads_blanks_gap _ b) ?_ fun c hc => ?_
      · rintro rfl
        rw [List.append_nil] at stop none_left
        exact absurd (eq_nil_of_stopsAt stop) none_left
      · simp [ListState.step, visible' c hc, other c hc]
    | within stops furthest =>
      obtain ⟨front, cut, stuck⟩ := stops.stops
      obtain ⟨state, reads, inside, stuck⟩ :=
        stuck (written.map WrittenAttribute.toAttribute).reverse
      exact directive_rejected before identifier name_ends visible tried split none_left cut furthest
        reads (fun _ => inside) stuck

theorem directive_cases (body : Text) :
    (∃ w : WrittenDirectiveBody, body = w.text ∧
      (Trial.directive body).outcome = some (w.found, [])) ∨
    RejectedAlike Trial.directive readDirective body := by
  obtain ⟨before, split⟩ := exists_blanks body
  have visible := stopsAt_skipBlanks body
  generalize Text.skipBlanks body = t at split visible
  subst split
  cases t with
  | nil => exact .inr (directive_unnamed before visible (by simp [StopsAt]))
  | cons c t =>
    by_cases first : DirectiveState.isFirst c
    · have identifier : IsIdentifier (c :: t.takeWhile DirectiveState.isNext) :=
        ⟨c, _, rfl, first, fun d hd => List.mem_takeWhile_imp hd⟩
      have named := directive_named before identifier (stopsAt_dropWhile DirectiveState.isNext t)
      rwa [List.cons_append, List.takeWhile_append_dropWhile] at named
    · exact .inr (directive_unnamed before visible (by simpa [StopsAt] using first))

theorem WrittenTagBody.readTag_text (w : WrittenTagBody) : readTag w.text = .ok w.found :=
  readTag_written w.attributes w.ending

/-- The readers accept what is written in the grammar and nothing else, and find the names and values
that were written. So no body has two readings. -/
theorem read_iff_written :
    (∀ body attributes, readTag body = .ok attributes ↔
      ∃ w : WrittenTagBody, body = w.text ∧ attributes = w.found) ∧
    (∀ body d, readDirective body = .ok d ↔
      ∃ w : WrittenDirectiveBody, body = w.text ∧ d = w.found) ∧
    (∀ w w' : WrittenTagBody, w.text = w'.text → w.found = w'.found) ∧
    ∀ w w' : WrittenDirectiveBody, w.text = w'.text → w.found = w'.found := by
  refine ⟨fun body attributes => ⟨fun read => ?_, ?_⟩, fun body d => ⟨fun read => ?_, ?_⟩, ?_, ?_⟩
  · rcases tag_cases body with ⟨w, rfl, -⟩ | ⟨front, far, -, -, -, rejected⟩
    · rw [w.readTag_text] at read
      exact ⟨w, rfl, (Except.ok.inj read).symm⟩
    · rw [rejected] at read
      cases read
  · rintro ⟨w, rfl, rfl⟩
    exact w.readTag_text
  · rcases directive_cases body with ⟨w, rfl, -⟩ | ⟨front, far, -, -, -, rejected⟩
    · rw [readDirective_written w] at read
      exact ⟨w, rfl, (Except.ok.inj read).symm⟩
    · rw [rejected] at read
      cases read
  · rintro ⟨w, rfl, rfl⟩
    exact readDirective_written w
  · intro w w' same
    have read := w.readTag_text
    rw [same, w'.readTag_text] at read
    exact (Except.ok.inj read).symm
  · intro w w' same
    have read := readDirective_written w
    rw [same, readDirective_written w'] at read
    exact (Except.ok.inj read).symm

end JspEndpoint.Template
