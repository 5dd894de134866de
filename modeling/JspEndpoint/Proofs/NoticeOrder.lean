import JspEndpoint.Proofs.ConversionProblems
import JspEndpoint.Proofs.ScanLocality
import JspEndpoint.Proofs.SegmentEvents

/-!
Problems and signals come in the order of the template. Each is caused by one entry and stands at
one place inside it: the opener that is not closed, the directive or tag, the `<` of a tag that is
not supported, or the character at which a body stops being readable. Entries do not overlap, so the
positions never go back, and go on from one entry to the next.
-/

namespace JspEndpoint.Template

/-- Events for those who listen to problems and signals. -/
def Event.isNotice : Event → Bool
  | problem .. | ambiguity .. | context .. => true
  | _ => false

/-- What an entry reports, given the text after it. -/
def Placed.notices (p : Placed) (after : Text) : List Event :=
  match p.lexeme with
  | .markup _ => []
  | .angle _ =>
    if Text.startsWith after ['f', 'm', 't', ':'] then
      [.ambiguity p.start "unsupported fmt tag passed through as markup"]
    else []
  | .construct k body => (constructEvents p.start k body).filter Event.isNotice
  | .unclosed k => [.problem p.start k.unclosedMessage]

/-- A problem or a signal, and the entry that causes it. -/
structure Notice where
  cause : Placed
  event : Event
  deriving DecidableEq, Repr

/-- The notices of lexemes that lie one after the other from an offset on. -/
def noticesFrom (start : Nat) : List Lexeme → List Notice
  | [] => []
  | l :: rest =>
    let p : Placed := ⟨start, l⟩
    (p.notices (rest.flatMap Lexeme.text)).map (Notice.mk p) ++
      noticesFrom (start + l.text.byteLength) rest

theorem isNotice_iff {e : Event} : e.isNotice ↔ ∃ offset, e.offset? = some offset := by
  cases e <;> simp [Event.isNotice, Event.offset?]

/-- All events that carry an offset carry the same one. -/
def AtOnePlace (events : List Event) : Prop :=
  ∃ place, ∀ e ∈ events, ∀ offset, e.offset? = some offset → offset = place

theorem atOnePlace_singleton (e : Event) : AtOnePlace [e] := by
  refine ⟨e.offset?.getD 0, fun other is_e offset found => ?_⟩
  obtain rfl := List.mem_singleton.1 is_e
  simp [found]

theorem directiveEvents_atOnePlace (start : Nat) (body : Text) :
    AtOnePlace (directiveEvents start body) := by
  unfold directiveEvents
  cases readDirective body with
  | error failure => exact atOnePlace_singleton _
  | ok d =>
    refine ⟨start, ?_⟩
    dsimp only
    split
    · intro e he offset found
      obtain ⟨a, -, ha⟩ := List.mem_flatMap.1 he
      unfold pageAttributeEvents at ha
      split at ha
      · obtain ⟨name, -, rfl⟩ := List.mem_map.1 ha
        cases found
      · obtain rfl := List.mem_singleton.1 ha
        exact (Option.some.inj found).symm
    · split <;> simp [Event.offset?]

theorem bundleTagEvents_atOnePlace (start : Nat) (k : Construct) (body : Text) :
    AtOnePlace (bundleTagEvents start k body) := by
  unfold bundleTagEvents
  cases readTag body with
  | error failure => exact atOnePlace_singleton _
  | ok attributes =>
    refine ⟨start, ?_⟩
    dsimp only
    split
    · split <;> simp [Event.offset?]
    · simp [Event.offset?]

theorem constructEvents_atOnePlace (start : Nat) (k : Construct) (body : Text) :
    AtOnePlace (constructEvents start k body) := by
  cases k with
  | directive => exact directiveEvents_atOnePlace start body
  | bundleMessage | bundleSet => exact bundleTagEvents_atOnePlace start _ body
  | _ => exact ⟨start, by simp [constructEvents, Event.offset?]⟩

namespace Placed

variable {p : Placed} {after : Text}

theorem notices_atOnePlace (p : Placed) (after : Text) : AtOnePlace (p.notices after) := by
  unfold notices
  split
  · exact ⟨p.start, by simp⟩
  · split
    · exact atOnePlace_singleton _
    · exact ⟨p.start, by simp⟩
  · next k body _ =>
    obtain ⟨place, same⟩ := constructEvents_atOnePlace p.start k body
    exact ⟨place, fun e he => same e (List.mem_filter.1 he).1⟩
  · exact atOnePlace_singleton _

theorem notices_within (wide : p.lexeme.text ≠ []) {e : Event} (h : e ∈ p.notices after) :
    e.isNotice ∧ e.Within p.start p.lexeme.text := by
  obtain ⟨start, l⟩ := p
  cases l with
  | markup run => cases h
  | angle mark =>
    simp only [notices] at h
    split at h
    · obtain rfl := List.mem_singleton.1 h
      exact ⟨rfl, Event.Within.of_start rfl wide⟩
    · cases h
  | construct k body =>
    obtain ⟨own, notice⟩ := List.mem_filter.1 h
    exact ⟨notice, constructEvents_within own⟩
  | unclosed k =>
    obtain rfl := List.mem_singleton.1 h
    exact ⟨rfl, Event.Within.of_start rfl wide⟩

theorem offset_of_mem_notices (wide : p.lexeme.text ≠ []) {e : Event} (h : e ∈ p.notices after) :
    ∃ offset, e.offset? = some offset ∧ p.start ≤ offset ∧ offset < p.stop := by
  obtain ⟨notice, within⟩ := notices_within wide h
  obtain ⟨offset, found⟩ := isNotice_iff.1 notice
  exact ⟨offset, found, within.bounds found⟩

end Placed

/-- One notice stands before another, unless both have the same cause. -/
def Notice.Before (a b : Notice) : Prop :=
  ∀ first second, a.event.offset? = some first → b.event.offset? = some second →
    first ≤ second ∧ (a.cause ≠ b.cause → first < second)

theorem mem_noticesFrom {start : Nat} {lexemes : List Lexeme} {n : Notice}
    (h : n ∈ noticesFrom start lexemes) :
    n.cause ∈ place start lexemes ∧ ∃ after, n.event ∈ n.cause.notices after := by
  induction lexemes generalizing start with
  | nil => cases h
  | cons l rest ih =>
    rcases List.mem_append.1 h with own | later
    · obtain ⟨e, he, rfl⟩ := List.mem_map.1 own
      exact ⟨List.mem_cons_self, _, he⟩
    · obtain ⟨placed, reported⟩ := ih later
      exact ⟨List.mem_cons_of_mem _ placed, reported⟩

theorem inside_of_mem_noticesFrom {start : Nat} {lexemes : List Lexeme}
    (wide : ∀ l ∈ lexemes, l.text ≠ []) {n : Notice} (h : n ∈ noticesFrom start lexemes) :
    n.cause ∈ place start lexemes ∧
      ∃ offset, n.event.offset? = some offset ∧ n.cause.start ≤ offset ∧ offset < n.cause.stop := by
  obtain ⟨placed, after, reported⟩ := mem_noticesFrom h
  have own_wide := (forall_mem_place start).2 wide n.cause placed
  exact ⟨placed, Placed.offset_of_mem_notices own_wide reported⟩

theorem le_start_of_mem_place {start : Nat} {lexemes : List Lexeme} {p : Placed}
    (h : p ∈ place start lexemes) : start ≤ p.start := by
  induction lexemes generalizing start with
  | nil => cases h
  | cons l rest ih =>
    rcases List.mem_cons.1 h with rfl | later
    · exact Nat.le_refl _
    · have bound := ih later
      omega

theorem noticesFrom_pairwise (start : Nat) {lexemes : List Lexeme}
    (wide : ∀ l ∈ lexemes, l.text ≠ []) : (noticesFrom start lexemes).Pairwise Notice.Before := by
  induction lexemes generalizing start with
  | nil => exact List.Pairwise.nil
  | cons l rest ih =>
    obtain ⟨own_wide, rest_wide⟩ := List.forall_mem_cons.1 wide
    refine List.pairwise_append.2 ⟨?_, ih _ rest_wide, ?_⟩
    · obtain ⟨place, same⟩ := Placed.notices_atOnePlace ⟨start, l⟩ (rest.flatMap Lexeme.text)
      refine List.pairwise_map.2 (List.pairwise_of_forall_mem_list ?_)
      intro e he e' he' first second found found'
      rw [same e he first found, same e' he' second found']
      exact ⟨Nat.le_refl _, fun different => absurd rfl different⟩
    · intro a ha b hb first second found found'
      obtain ⟨e, he, rfl⟩ := List.mem_map.1 ha
      obtain ⟨o, is_o, -, before⟩ := Placed.offset_of_mem_notices own_wide he
      obtain ⟨later, o', is_o', after, -⟩ := inside_of_mem_noticesFrom rest_wide hb
      have gap := le_start_of_mem_place later
      obtain rfl : o = first := Option.some.inj (is_o.symm.trans found)
      obtain rfl : o' = second := Option.some.inj (is_o'.symm.trans found')
      simp only [Placed.stop] at before
      exact ⟨by omega, fun _ => by omega⟩

theorem notices_of_isMarkup {l : Lexeme} (markup : l.isMarkup) (start : Nat) (after : Text) :
    Placed.notices ⟨start, l⟩ after = l.signals start after := by
  cases l with
  | markup | angle => rfl
  | construct | unclosed => cases markup

theorem filter_segmentEvents_run (start : Nat) (t : Text) :
    (segmentEvents start (.run t)).filter Event.isNotice = ambiguities start t := by
  obtain ⟨offsets, signals, -⟩ := signalsOf_ambiguities start t
  rw [segmentEvents, signals, List.filter_append, List.filter_eq_self.2]
  · simp [Event.isNotice]
  · simp [Event.isNotice]

theorem filter_eventsFrom_run {start : Nat} {t : Text} {segs more : List Segment}
    (h : segs = .run t :: more ∨ (t = [] ∧ segs = more)) :
    (eventsFrom start segs).filter Event.isNotice =
      ambiguities start t ++ (eventsFrom (start + t.byteLength) more).filter Event.isNotice := by
  rcases h with rfl | ⟨rfl, rfl⟩
  · rw [eventsFrom, List.filter_append, filter_segmentEvents_run]
    rfl
  · rfl

theorem map_event_noticesFrom_cons (start : Nat) (l : Lexeme) (rest : List Lexeme) :
    (noticesFrom start (l :: rest)).map Notice.event =
      Placed.notices ⟨start, l⟩ (rest.flatMap Lexeme.text) ++
        (noticesFrom (start + l.text.byteLength) rest).map Notice.event := by
  simp [noticesFrom, Function.comp_def]

theorem filter_eventsFrom_scan (start : Nat) (source : Text) :
    (eventsFrom start (segments (scan source))).filter Event.isNotice =
      (noticesFrom start (scan source)).map Notice.event := by
  fun_induction scan source generalizing start with
  | case1 => rfl
  | case2 c u ih =>
    rw [map_event_noticesFrom_cons, scan_text, ← ih]
    by_cases markup : (Lexeme.next c u).1.isMarkup
    · -- the entry is the start of a run, and the run may go on in the entries after it
      obtain ⟨t, more, joined, rest⟩ :=
        Segment.joinRun_eq (Lexeme.next c u).1.text (segments (scan (Lexeme.next c u).2))
      have whole : segments (scan (c :: u)) = .run ((Lexeme.next c u).1.text ++ t) :: more := by
        rw [scan, segments_of_isMarkup markup, joined]
      obtain ⟨after, source_eq, stop⟩ := stop_of_head_run whole
      have behind : (Lexeme.next c u).2 = t ++ after := by
        rw [← Lexeme.next_text, List.append_assoc] at source_eq
        exact List.append_cancel_left source_eq
      rw [segments_of_isMarkup markup, joined, filter_eventsFrom_run (.inl rfl),
        filter_eventsFrom_run rest, ambiguities_next markup behind stop, notices_of_isMarkup markup,
        Text.byteLength_append, List.append_assoc, Nat.add_assoc]
    · cases l : (Lexeme.next c u).1 with
      | markup run | angle mark => simp [l, Lexeme.isMarkup] at markup
      | construct k body | unclosed k =>
        rw [segments, eventsFrom, List.filter_append]
        rfl

/-- The notices of a template. -/
def noticesOf (source : Text) : List Notice := noticesFrom 0 (scan source)

/-- Problems and signals are reported entry by entry. Each stands inside the entry that causes it;
positions never go back, and they go on from one entry to another. -/
theorem notices_in_order (source : Text) :
    (noticesOf source).map Notice.event = (recognize source).filter Event.isNotice ∧
      (∀ n ∈ noticesOf source, n.cause ∈ place 0 (scan source) ∧
        ∃ offset, (n.event.told source).position = some (Position.ofOffset source offset) ∧
          n.cause.start ≤ offset ∧ offset < n.cause.stop) ∧
      (noticesOf source).Pairwise fun a b => ∀ first second,
        (a.event.told source).position = some first →
        (b.event.told source).position = some second →
          first ≤ second ∧ (a.cause ≠ b.cause → first < second) := by
  have wide : ∀ l ∈ scan source, l.text ≠ [] := fun l => text_ne_nil_of_mem_scan
  rw [recognize_eq]
  refine ⟨(filter_eventsFrom_scan 0 source).symm, ?_, ?_⟩
  · intro n hn
    obtain ⟨placed, offset, found, inside⟩ := inside_of_mem_noticesFrom wide hn
    exact ⟨placed, offset, by rw [Event.told, found]; rfl, inside⟩
  · refine (noticesFrom_pairwise 0 wide).imp ?_
    intro a b before first second found found'
    obtain ⟨o, is_o, rfl⟩ := Option.map_eq_some_iff.1 found
    obtain ⟨o', is_o', rfl⟩ := Option.map_eq_some_iff.1 found'
    obtain ⟨le, lt⟩ := before o o' is_o is_o'
    have mono := Position.ofOffset_strictMono source
    exact ⟨mono.monotone le, fun different => mono (lt different)⟩

/-- A tag left in markup, a tag with two problems, a body that breaks off and an open scriptlet. -/
example :
    let source : Text := "a\n<fmt:x><fmt:message/><%@ page b %>\n<%"
    (noticesOf source).map (fun n => (n.cause.start, (n.event.told source).position)) =
      [(2, some ⟨2, 0⟩), (9, some ⟨2, 7⟩), (9, some ⟨2, 7⟩), (23, some ⟨2, 32⟩),
        (37, some ⟨3, 0⟩)] := by
  decide +kernel

end JspEndpoint.Template
