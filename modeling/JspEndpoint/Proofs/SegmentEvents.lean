import JspEndpoint.Proofs.MarkupRuns
import JspEndpoint.Proofs.ScanTiles
import Mathlib.Data.List.Forall2

/-!
The events of a template, stretch by stretch. The entries of a template fall into stretches: longest
runs of markup, single constructs, single openers that are not closed. Each stretch has events of its
own, and recognition reports these in order and nothing else. What opens a construct does not hide in
markup, with one exception: a comment opener that breaks off stays in it as text.
-/

namespace JspEndpoint.Template

def joinedText (entries : List Placed) : Text := entries.flatMap fun p => p.lexeme.text

/-- Neighbouring entries of markup, at least one. -/
def IsRun (entries : List Placed) : Prop := entries ≠ [] ∧ ∀ p ∈ entries, p.lexeme.isMarkup

/-- One signal for each place where markup looks like a tag of the bundle library, in order. -/
def SignalsOf (start : Nat) (run : Text) (signals : List Event) : Prop :=
  ∃ offsets : List Nat,
    signals = offsets.map (.ambiguity · "unsupported fmt tag passed through as markup") ∧
      offsets.Pairwise (· < ·) ∧
      ∀ offset, offset ∈ offsets ↔
        ∃ front : Text, front ++ ['<', 'f', 'm', 't', ':'] <+: run ∧
          offset = start + front.byteLength

/-- The event of a construct that is reported as it stands. -/
def rawEvent? : Construct → Option (Text → Event)
  | .comment => some .comment
  | .declaration => some .declaration
  | .expression => some .expression
  | .scriptlet => some .code
  | .directive | .bundleMessage | .bundleSet => none

def tagEvent? : Construct → Option (List Attribute → Event)
  | .bundleMessage => some .bundleVariable
  | .bundleSet => some .bundleSet
  | _ => none

/-- What a stretch of entries may report. -/
inductive OwnEvents : List Placed → List Event → Prop
  | run {p : Placed} {rest : List Placed} {signals : List Event} : IsRun (p :: rest) →
      joinedText (p :: rest) ≠ [] → SignalsOf p.start (joinedText (p :: rest)) signals →
      OwnEvents (p :: rest) (signals ++ [.markup (joinedText (p :: rest))])
  | raw {start : Nat} {k : Construct} {body : Text} {event : Text → Event} :
      rawEvent? k = some event →
      OwnEvents [⟨start, .construct k body⟩] [event (Lexeme.construct k body).text]
  | directiveRefused {start offset : Nat} {body message : Text} :
      OwnEvents [⟨start, .construct .directive body⟩] [.problem offset message]
  | directiveRead {start : Nat} {body : Text} {events : List Event} :
      (∀ e ∈ events, (∃ name, e = .importName name) ∨ ∃ offset message, e = .context offset message) →
      OwnEvents [⟨start, .construct .directive body⟩] events
  | tagRefused {start : Nat} {k : Construct} {body : Text} {events : List Event} :
      k.isBundleTag → events ≠ [] → (∀ e ∈ events, ∃ offset message, e = .problem offset message) →
      OwnEvents [⟨start, .construct k body⟩] events
  | tagRead {start : Nat} {k : Construct} {body : Text} {event : List Attribute → Event}
      {attributes : List Attribute} : tagEvent? k = some event → readTag body = .ok attributes →
      OwnEvents [⟨start, .construct k body⟩] [event attributes]
  | unclosed {start : Nat} {k : Construct} :
      OwnEvents [⟨start, .unclosed k⟩] [.problem start k.unclosedMessage]

theorem append_prefix_cons_iff {mark front t : Text} {c : Char} :
    front ++ mark <+: c :: t ↔
      (front = [] ∧ mark <+: c :: t) ∨ ∃ rest, front = c :: rest ∧ rest ++ mark <+: t := by
  cases front with
  | nil => simp
  | cons d rest =>
    rw [List.cons_append, List.cons_prefix_cons]
    simp [and_assoc]

theorem signalsOf_ambiguities (start : Nat) (t : Text) : SignalsOf start t (ambiguities start t) := by
  induction t generalizing start with
  | nil => exact ⟨[], rfl, List.Pairwise.nil, fun offset => by simp⟩
  | cons c t ih =>
    obtain ⟨offsets, same, ordered, found⟩ := ih (start + c.utf8Size)
    have places : ∀ offset,
        (∃ front : Text, front ++ ['<', 'f', 'm', 't', ':'] <+: c :: t ∧
          offset = start + front.byteLength) ↔
        (['<', 'f', 'm', 't', ':'] <+: c :: t ∧ offset = start) ∨ offset ∈ offsets := by
      intro offset
      rw [found]
      constructor
      · rintro ⟨front, starts, place⟩
        rcases append_prefix_cons_iff.1 starts with ⟨rfl, here⟩ | ⟨rest, rfl, tail⟩
        · exact .inl ⟨here, place⟩
        · exact .inr ⟨rest, tail, by rw [place, Text.byteLength_cons, Nat.add_assoc]⟩
      · rintro (⟨here, place⟩ | ⟨rest, starts, place⟩)
        · exact ⟨[], here, place⟩
        · refine ⟨c :: rest, append_prefix_cons_iff.2 (.inr ⟨rest, rfl, starts⟩), ?_⟩
          rw [place, Text.byteLength_cons, Nat.add_assoc]
    rw [ambiguities, same, Text.startsWith]
    by_cases here : ['<', 'f', 'm', 't', ':'] <+: c :: t
    · rw [if_pos (Text.after?_isSome_iff.2 here)]
      refine ⟨start :: offsets, rfl, List.pairwise_cons.2 ⟨fun offset later => ?_, ordered⟩, ?_⟩
      · obtain ⟨rest, -, place⟩ := (found offset).1 later
        have wide := c.utf8Size_pos
        omega
      · intro offset
        simp [places, here]
    · rw [if_neg (mt Text.after?_isSome_iff.1 here)]
      refine ⟨offsets, rfl, ordered, fun offset => ?_⟩
      simp [places, here]

theorem directiveEvents_own (start : Nat) (body : Text) :
    OwnEvents [⟨start, .construct .directive body⟩] (directiveEvents start body) := by
  unfold directiveEvents
  cases readDirective body with
  | error failure => exact .directiveRefused
  | ok d =>
    dsimp only
    split
    · refine .directiveRead fun e he => ?_
      obtain ⟨a, -, ha⟩ := List.mem_flatMap.1 he
      unfold pageAttributeEvents at ha
      split at ha
      · obtain ⟨name, -, rfl⟩ := List.mem_map.1 ha
        exact .inl ⟨name, rfl⟩
      · exact .inr ⟨start, _, List.mem_singleton.1 ha⟩
    · split
      · exact .directiveRead fun e he => by cases he
      · exact .directiveRefused

theorem bundleTagEvents_own (start : Nat) {k : Construct} (tag : k.isBundleTag) (body : Text) :
    OwnEvents [⟨start, .construct k body⟩] (bundleTagEvents start k body) := by
  unfold bundleTagEvents
  cases read : readTag body with
  | error failure =>
    exact .tagRefused tag (by simp) fun e he => ⟨_, _, List.mem_singleton.1 he⟩
  | ok attributes =>
    dsimp only
    split
    · cases k with
      | bundleMessage | bundleSet => exact .tagRead rfl read
      | _ => cases tag
    · next problems found =>
      refine .tagRefused tag (by simpa using found) fun e he => ?_
      obtain ⟨message, -, rfl⟩ := List.mem_map.1 he
      exact ⟨start, message, rfl⟩

theorem constructEvents_own (start : Nat) (k : Construct) (body : Text) :
    OwnEvents [⟨start, .construct k body⟩] (constructEvents start k body) := by
  cases k with
  | directive => exact directiveEvents_own start body
  | bundleMessage | bundleSet => exact bundleTagEvents_own start rfl body
  | _ => exact .raw rfl

/-- The entries of a segment that starts at the given offset. -/
inductive Covers (start : Nat) : Segment → List Placed → Prop
  | run {p : Placed} {rest : List Placed} : p.start = start → IsRun (p :: rest) →
      Covers start (.run (joinedText (p :: rest))) (p :: rest)
  | construct {k : Construct} {body : Text} :
      Covers start (.construct k body) [⟨start, .construct k body⟩]
  | unclosed {k : Construct} : Covers start (.unclosed k) [⟨start, .unclosed k⟩]

/-- Segments from an offset on, with the entries of each. -/
inductive Laid : Nat → List Segment → List (List Placed) → Prop
  | nil {start : Nat} : Laid start [] []
  | cons {start : Nat} {s : Segment} {entries : List Placed} {segs : List Segment}
      {stretches : List (List Placed)} : Covers start s entries →
      Laid (start + s.text.byteLength) segs stretches →
      Laid start (s :: segs) (entries :: stretches)

theorem IsRun.cons {p : Placed} {entries : List Placed} (h : IsRun entries)
    (markup : p.lexeme.isMarkup) : IsRun (p :: entries) :=
  ⟨List.cons_ne_nil p entries, List.forall_mem_cons.2 ⟨markup, h.2⟩⟩

theorem isRun_singleton {p : Placed} (markup : p.lexeme.isMarkup) : IsRun [p] :=
  ⟨List.cons_ne_nil p [], by simpa using markup⟩

theorem joinedText_cons (p : Placed) (entries : List Placed) :
    joinedText (p :: entries) = p.lexeme.text ++ joinedText entries := rfl

theorem joinedText_singleton (p : Placed) : joinedText [p] = p.lexeme.text := by
  simp [joinedText]

theorem Laid.joinRun {start : Nat} {l : Lexeme} {segs : List Segment}
    {stretches : List (List Placed)} (markup : l.isMarkup)
    (h : Laid (start + l.text.byteLength) segs stretches) :
    ∃ joined, Laid start (Segment.joinRun l.text segs) joined ∧
      joined.flatten = ⟨start, l⟩ :: stretches.flatten := by
  let p : Placed := ⟨start, l⟩
  have alone : Covers start (.run l.text) [p] := by
    have covers : Covers start (.run (joinedText [p])) [p] := .run rfl (isRun_singleton markup)
    rwa [joinedText_singleton] at covers
  cases h with
  | nil => exact ⟨_, .cons alone .nil, rfl⟩
  | @cons _ _ entries segs stretches covers later =>
    cases covers with
    | @run q rest first run =>
      have joined : Covers start (.run (joinedText (p :: q :: rest))) (p :: q :: rest) :=
        .run rfl (run.cons markup)
      rw [joinedText_cons] at joined
      refine ⟨(p :: q :: rest) :: stretches, .cons joined ?_, rfl⟩
      simpa [Segment.text, Nat.add_assoc] using later
    | construct => exact ⟨_, .cons alone (.cons .construct later), rfl⟩
    | unclosed => exact ⟨_, .cons alone (.cons .unclosed later), rfl⟩

theorem exists_laid (start : Nat) (lexemes : List Lexeme) :
    ∃ stretches, Laid start (segments lexemes) stretches ∧
      stretches.flatten = place start lexemes := by
  induction lexemes generalizing start with
  | nil => exact ⟨[], .nil, rfl⟩
  | cons l rest ih =>
    obtain ⟨stretches, laid, same⟩ := ih (start + l.text.byteLength)
    rw [place, ← same]
    cases l with
    | markup t | angle t => exact laid.joinRun rfl
    | construct k body => exact ⟨_, .cons .construct laid, rfl⟩
    | unclosed k => exact ⟨_, .cons .unclosed laid, rfl⟩

theorem Covers.ownEvents {start : Nat} {s : Segment} {entries : List Placed}
    (h : Covers start s entries) (wide : ∀ p ∈ entries, p.lexeme.text ≠ []) :
    OwnEvents entries (segmentEvents start s) := by
  cases h with
  | @run p rest first run =>
    subst first
    have text : joinedText (p :: rest) ≠ [] :=
      List.append_ne_nil_of_left_ne_nil (wide p List.mem_cons_self) _
    exact .run run text (signalsOf_ambiguities _ _)
  | construct => exact constructEvents_own start _ _
  | unclosed => exact .unclosed

theorem Laid.ownEvents {start : Nat} {segs : List Segment} {stretches : List (List Placed)}
    (h : Laid start segs stretches) (wide : ∀ p ∈ stretches.flatten, p.lexeme.text ≠ []) :
    ∃ streams, List.Forall₂ OwnEvents stretches streams ∧
      streams.flatten = eventsFrom start segs := by
  induction h with
  | nil => exact ⟨[], .nil, rfl⟩
  | @cons start s entries segs stretches covers _ ih =>
    rw [List.flatten_cons, List.forall_mem_append] at wide
    obtain ⟨streams, own, same⟩ := ih wide.2
    refine ⟨segmentEvents start s :: streams, .cons (covers.ownEvents wide.1) own, ?_⟩
    rw [List.flatten_cons, same, eventsFrom]

theorem Covers.isRun {start : Nat} {s : Segment} {entries : List Placed}
    (h : Covers start s entries) (run : IsRun entries) : s.isRun := by
  cases h with
  | run => rfl
  | construct | unclosed => simpa [Lexeme.isMarkup] using run.2

theorem Laid.isChain {start : Nat} {segs : List Segment} {stretches : List (List Placed)}
    (h : Laid start segs stretches) (apart : segs.IsChain Segment.Apart) :
    stretches.IsChain fun a b => ¬(IsRun a ∧ IsRun b) := by
  induction h with
  | nil => exact List.isChain_nil
  | cons covers later ih =>
    cases later with
    | nil => exact List.isChain_singleton _
    | cons covers' _ =>
      obtain ⟨first, others⟩ := List.isChain_cons_cons.1 apart
      refine List.isChain_cons_cons.2 ⟨fun runs => ?_, ih others⟩
      exact first ⟨covers.isRun runs.1, covers'.isRun runs.2⟩

theorem run_mem_segments_cons {l : Lexeme} (other : ¬l.isMarkup) {rest : List Lexeme} {t : Text}
    (h : .run t ∈ segments (l :: rest)) : .run t ∈ segments rest := by
  cases l with
  | markup | angle => exact absurd rfl other
  | construct | unclosed => simpa [segments] using h

theorem breaksOff_of_opener {c : Char} {t : Text} {k : Construct}
    (markup : (Lexeme.next c t).1.isMarkup) (starts : k.opener <+: c :: t) :
    BreaksOff (c :: t) := by
  obtain ⟨u, opener⟩ := k.opener_eq_cons
  obtain rfl : '<' = c := by
    rw [opener, List.cons_prefix_cons] at starts
    exact starts.1
  cases opened : Construct.opened? ('<' :: t) with
  | none => exact absurd starts (Construct.opened?_eq_none opened k)
  | some found =>
    by_cases broken : BreaksOff ('<' :: t)
    · exact broken
    · rw [next_of_opened opened broken] at markup
      split at markup <;> cases markup

namespace BreaksOff

theorem eq_scriptlet {t : Text} (h : BreaksOff t) {k : Construct} (starts : k.opener <+: t) :
    k = .scriptlet := by
  obtain ⟨⟨rest, rfl⟩, other⟩ := h
  cases k with
  | comment => exact absurd starts other
  | scriptlet => rfl
  | _ => simp [Construct.opener] at starts

theorem of_append {t rest : Text} (h : BreaksOff (t ++ rest))
    (stop : rest = [] ∨ rest.head? = some '<') (starts : Construct.scriptlet.opener <+: t) :
    BreaksOff t := by
  refine ⟨?_, fun comment => h.2 (comment.trans ⟨rest, rfl⟩)⟩
  obtain ⟨tail, rfl⟩ := starts
  obtain ⟨dash, -⟩ := h
  cases tail with
  | nil =>
    rcases stop with rfl | angle
    · simp [Construct.opener] at dash
    · obtain ⟨more, rfl⟩ := List.head?_eq_some_iff.1 angle
      simp [Construct.opener] at dash
  | cons c tail => simpa [Construct.opener] using dash

end BreaksOff

theorem opener_later {front text t back : Text} {k : Construct} (ne : front ≠ [])
    (tail : '<' ∉ text.tail) (same : text ++ t = front ++ k.opener ++ back) :
    ∃ rest, front = text ++ rest ∧ t = rest ++ k.opener ++ back := by
  rw [List.append_assoc] at same
  rcases List.append_eq_append_iff.1 same with ⟨rest, rfl, later⟩ | ⟨rest, split, later⟩
  · exact ⟨rest, rfl, by rw [later, List.append_assoc]⟩
  · cases rest with
    | nil =>
      rw [List.append_nil] at split
      exact ⟨[], by rw [split, List.append_nil], by simpa using later.symm⟩
    | cons c rest =>
      -- the opener would start inside `text`, behind its first character
      obtain ⟨u, opener⟩ := k.opener_eq_cons
      obtain ⟨d, front, rfl⟩ := List.exists_cons_of_ne_nil ne
      rw [opener, List.cons_append, List.cons_append] at later
      obtain rfl := (List.cons.inj later).1
      simp [split] at tail

theorem opener_at_run {c : Char} {u back : Text} {k : Construct} {more : List Segment}
    (markup : (Lexeme.next c u).1.isMarkup)
    (h : segments (scan (c :: u)) = .run (k.opener ++ back) :: more) :
    k = .scriptlet ∧ BreaksOff (k.opener ++ back) := by
  obtain ⟨after, source, stop⟩ := stop_of_head_run h
  have starts : k.opener <+: c :: u := ⟨back ++ after, by rw [source, List.append_assoc]⟩
  have broken := breaksOff_of_opener markup starts
  obtain rfl := broken.eq_scriptlet starts
  rw [source] at broken
  exact ⟨rfl, broken.of_append stop ⟨back, rfl⟩⟩

theorem opener_in_run {source t front back : Text} {k : Construct}
    (h : .run t ∈ segments (scan source)) (occurs : t = front ++ k.opener ++ back) :
    k = .scriptlet ∧ BreaksOff (k.opener ++ back) := by
  fun_induction scan source generalizing t front with
  | case1 => cases h
  | case2 c u ih =>
    by_cases markup : (Lexeme.next c u).1.isMarkup
    · rw [segments_of_isMarkup markup] at h
      obtain ⟨later, more, joined, rest⟩ :=
        Segment.joinRun_eq (Lexeme.next c u).1.text (segments (scan (Lexeme.next c u).2))
      rw [joined] at h
      rcases List.mem_cons.1 h with first | other
      · obtain rfl := Segment.run.inj first
        by_cases ne : front = []
        · rw [ne, List.nil_append] at occurs
          have whole : segments (scan (c :: u)) = .run (k.opener ++ back) :: more := by
            rw [scan, segments_of_isMarkup markup, joined, occurs]
          exact opener_at_run markup whole
        · obtain ⟨front, -, inside⟩ := opener_later ne (Lexeme.angle_notMem_tail markup) occurs
          rcases rest with same | ⟨rfl, -⟩
          · exact ih (same ▸ List.mem_cons_self) inside
          · simp [Lexeme.opener_ne_nil] at inside
      · refine ih ?_ occurs
        rcases rest with same | ⟨-, same⟩
        · exact same ▸ List.mem_cons_of_mem _ other
        · exact same ▸ other
    · exact ih (run_mem_segments_cons markup h) occurs

theorem OwnEvents.isRun_of_markup_mem {entries : List Placed} {events : List Event} {t : Text}
    (h : OwnEvents entries events) (reported : .markup t ∈ events) : IsRun entries := by
  cases h with
  | run run => exact run
  | @raw _ k _ event told =>
    cases k with
    | comment | declaration | expression | scriptlet =>
      obtain rfl := Option.some.inj told
      simp at reported
    | _ => cases told
  | directiveRefused => simp at reported
  | directiveRead others =>
    rcases others _ reported with ⟨name, same⟩ | ⟨offset, message, same⟩ <;> cases same
  | tagRefused _ _ problems =>
    obtain ⟨offset, message, same⟩ := problems _ reported
    cases same
  | @tagRead _ k _ event _ told =>
    cases k with
    | bundleMessage | bundleSet =>
      obtain rfl := Option.some.inj told
      simp at reported
    | _ => cases told
  | unclosed => simp at reported

theorem run_mem_of_markup_mem {start : Nat} {segs : List Segment} {t : Text}
    (h : .markup t ∈ eventsFrom start segs) : .run t ∈ segs := by
  induction segs generalizing start with
  | nil => cases h
  | cons s rest ih =>
    rcases List.mem_append.1 h with own | later
    · cases s with
      | run u =>
        obtain ⟨offsets, signals, -⟩ := signalsOf_ambiguities start u
        rw [segmentEvents, signals] at own
        obtain rfl : t = u := by simpa using own
        exact List.mem_cons_self
      | construct k body =>
        have run := (constructEvents_own start k body).isRun_of_markup_mem own
        simp [IsRun, Lexeme.isMarkup] at run
      | unclosed k => simp [segmentEvents] at own
    · exact List.mem_cons_of_mem s (ih later)

theorem flatMap_joinedText (stretches : List (List Placed)) :
    stretches.flatMap joinedText = joinedText stretches.flatten := by
  induction stretches with
  | nil => rfl
  | cons entries rest ih =>
    rw [List.flatMap_cons, ih, List.flatten_cons, joinedText, joinedText, joinedText,
      List.flatMap_append]

/-- The stretches of a template and their events make up the template and what is recognized in it.
An opener stays in markup only where a comment opener breaks off. -/
theorem recognize_accounts (source : Text) :
    ∃ (stretches : List (List Placed)) (streams : List (List Event)),
      stretches.flatten = place 0 (scan source) ∧
        stretches.flatMap joinedText = source ∧
        (stretches.IsChain fun a b => ¬(IsRun a ∧ IsRun b)) ∧
        List.Forall₂ OwnEvents stretches streams ∧
        streams.flatten = recognize source ∧
        ∀ t, .markup t ∈ recognize source → ∀ k front back, t = front ++ Construct.opener k ++ back →
          k = .scriptlet ∧ BreaksOff (k.opener ++ back) := by
  obtain ⟨stretches, laid, entries⟩ := exists_laid 0 (scan source)
  have wide : ∀ p ∈ stretches.flatten, p.lexeme.text ≠ [] := by
    rw [entries]
    intro p hp
    obtain ⟨front, c, t, -, -, lexeme⟩ := exists_of_mem_place_scan hp
    rw [lexeme]
    exact Lexeme.next_text_ne_nil c t
  obtain ⟨streams, own, events⟩ := laid.ownEvents wide
  have texts : stretches.flatMap joinedText = source := by
    rw [flatMap_joinedText, entries, joinedText, flatMap_place_text, scan_text]
  rw [recognize_eq]
  refine ⟨stretches, streams, entries, texts, laid.isChain (segments_isChain _), own, events, ?_⟩
  intro t reported k front back occurs
  exact opener_in_run (run_mem_of_markup_mem reported) occurs

/-- A scriptlet opener is reported as markup, since a dash follows it. -/
theorem recognize_breaks_off :
    let source : Text := ['<', '%', '-', ' ', 'x', ' ', '%', '>']
    recognize source = [.markup source] ∧ Construct.scriptlet.opener <+: source ∧
      Construct.scriptlet.close? (source.drop 2) = some (['-', ' ', 'x', ' '], []) := by
  decide +kernel

end JspEndpoint.Template
