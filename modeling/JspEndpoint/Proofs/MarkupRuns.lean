import JspEndpoint.Proofs.ScanEntries
import JspEndpoint.Template.Event
import Mathlib.Data.List.Chain
import Mathlib.Data.List.Infix

/-!
Markup that is kept back. A template falls into segments: longest runs of markup, single constructs
and single openers that are not closed. The pass over the entries holds markup back as a pair of
offsets and hands it over before a construct, before a failure and at the end. What it reports is
what the segments report one by one, each from its own text.
-/

namespace JspEndpoint.Template

inductive Segment where
  | run (text : Text)
  | construct (kind : Construct) (body : Text)
  | unclosed (kind : Construct)
  deriving DecidableEq, Repr

namespace Segment

def text : Segment → Text
  | run text => text
  | construct k body => k.opener ++ body ++ k.closer
  | unclosed k => k.opener

/-- Puts markup in front of segments, joined with a run that stands first. -/
def joinRun (front : Text) : List Segment → List Segment
  | run text :: rest => run (front ++ text) :: rest
  | rest => run front :: rest

theorem joinRun_text (front : Text) (segments : List Segment) :
    (joinRun front segments).flatMap text = front ++ segments.flatMap text := by
  unfold joinRun
  split <;> simp [text]

end Segment

def segments : List Lexeme → List Segment
  | [] => []
  | .markup run :: rest => Segment.joinRun run (segments rest)
  | .angle mark :: rest => Segment.joinRun mark (segments rest)
  | .construct k body :: rest => .construct k body :: segments rest
  | .unclosed k :: rest => .unclosed k :: segments rest

theorem segments_text (lexemes : List Lexeme) :
    (segments lexemes).flatMap Segment.text = lexemes.flatMap Lexeme.text := by
  induction lexemes with
  | nil => rfl
  | cons l rest ih =>
    cases l <;> simp [segments, Segment.joinRun_text, Segment.text, Lexeme.text, ih]

/-- Signals for the tags of the bundle library that markup holds. -/
def ambiguities (start : Nat) : Text → List Event
  | [] => []
  | c :: t =>
    let rest := ambiguities (start + c.utf8Size) t
    if Text.startsWith (c :: t) ['<', 'f', 'm', 't', ':'] then
      .ambiguity start "unsupported fmt tag passed through as markup" :: rest
    else rest

def segmentEvents (start : Nat) : Segment → List Event
  | .run text => ambiguities start text ++ [.markup text]
  | .construct k body => constructEvents start k body
  | .unclosed k => [.problem start k.unclosedMessage]

def eventsFrom (start : Nat) : List Segment → List Event
  | [] => []
  | s :: rest => segmentEvents start s ++ eventsFrom (start + s.text.byteLength) rest

def Lexeme.isMarkup : Lexeme → Bool
  | markup _ | angle _ => true
  | construct .. | unclosed _ => false

def Segment.isRun : Segment → Bool
  | run _ => true
  | construct .. | unclosed _ => false

/-- Not both are runs. -/
def Segment.Apart (a b : Segment) : Prop := ¬(a.isRun ∧ b.isRun)

theorem Segment.joinRun_isChain (t : Text) {segs : List Segment} (h : segs.IsChain Apart) :
    (joinRun t segs).IsChain Apart := by
  cases segs with
  | nil => exact List.isChain_singleton _
  | cons s rest =>
    cases s with
    | run u =>
      have same : ∀ {b}, Apart (.run u) b → Apart (.run (t ++ u)) b := fun apart => apart
      exact h.imp_head same
    | construct | unclosed => exact List.isChain_cons_cons.2 ⟨by simp [Apart, isRun], h⟩

theorem segments_isChain (lexemes : List Lexeme) : (segments lexemes).IsChain Segment.Apart := by
  induction lexemes with
  | nil => exact List.isChain_nil
  | cons l rest ih =>
    cases l with
    | markup t | angle t => exact Segment.joinRun_isChain t ih
    | construct | unclosed =>
      rw [segments]
      exact ih.cons fun b _ => by simp [Segment.Apart, Segment.isRun]

theorem segments_of_isMarkup {l : Lexeme} (markup : l.isMarkup) (rest : List Lexeme) :
    segments (l :: rest) = Segment.joinRun l.text (segments rest) := by
  cases l with
  | markup t | angle t => rfl
  | construct | unclosed => cases markup

theorem Segment.joinRun_eq (front : Text) (segs : List Segment) :
    ∃ t more, joinRun front segs = run (front ++ t) :: more ∧
      (segs = run t :: more ∨ (t = [] ∧ segs = more)) := by
  unfold joinRun
  split
  · next t more => exact ⟨t, more, rfl, .inl rfl⟩
  · exact ⟨[], segs, by rw [List.append_nil], .inr ⟨rfl, rfl⟩⟩

theorem stop_of_head_run {source t : Text} {more : List Segment}
    (h : segments (scan source) = .run t :: more) :
    ∃ rest, source = t ++ rest ∧ (rest = [] ∨ rest.head? = some '<') := by
  refine ⟨more.flatMap Segment.text, ?_, ?_⟩
  · rw [← scan_text source, ← segments_text, h, List.flatMap_cons]
    rfl
  · have chain := segments_isChain (scan source)
    rw [h] at chain
    cases more with
    | nil => exact .inl rfl
    | cons s others =>
      have apart := (List.isChain_cons_cons.1 chain).1
      cases s with
      | run u => exact absurd ⟨rfl, rfl⟩ apart
      | construct k body | unclosed k =>
        obtain ⟨u, opener⟩ := k.opener_eq_cons
        simp [Segment.text, opener]

theorem Lexeme.angle_notMem_tail {c : Char} {t : Text} (markup : (next c t).1.isMarkup) :
    '<' ∉ (next c t).1.text.tail := by
  unfold next at markup ⊢
  split at markup
  · next hc =>
    rw [if_pos hc]
    split at markup
    · simp [text]
    · simp [text]
    · split at markup <;> cases markup
  · next hc =>
    rw [if_neg hc]
    intro inside
    simpa [notAngle] using List.all_eq_true.1 List.all_takeWhile '<' inside

theorem ambiguities_append_of_notMem {front : Text} (h : '<' ∉ front) (start : Nat) (t : Text) :
    ambiguities start (front ++ t) = ambiguities (start + front.byteLength) t := by
  induction front generalizing start with
  | nil => rfl
  | cons c front ih =>
    obtain ⟨other, rest⟩ := not_or.1 (mt List.mem_cons.2 h)
    have plain : Text.startsWith (c :: (front ++ t)) ['<', 'f', 'm', 't', ':'] = false := by
      simp [Text.startsWith, Text.after?, other]
    rw [List.cons_append, ambiguities, plain, ih rest, Text.byteLength_cons, Nat.add_assoc]
    rfl

theorem prefix_append_iff_of_stop {mark t after : Text}
    (stop : ∀ c, after.head? = some c → c ∉ mark) : mark <+: t ++ after ↔ mark <+: t := by
  refine ⟨fun starts => ?_, fun starts => starts.trans (List.prefix_append t after)⟩
  cases after with
  | nil => simpa using starts
  | cons c rest =>
    have other : c ∉ mark := stop c rfl
    have upto : t ++ [c] <+: t ++ c :: rest := ⟨rest, by simp⟩
    rcases List.prefix_or_prefix_of_prefix starts upto with short | ⟨more, rfl⟩
    · rcases List.prefix_concat_iff.1 short with rfl | inside
      · simp at other
      · exact inside
    · simp at other

theorem prefix_append_iff_of_angle {mark t after : Text} (plain : '<' ∉ mark)
    (stop : after = [] ∨ after.head? = some '<') : mark <+: t ++ after ↔ mark <+: t := by
  refine prefix_append_iff_of_stop fun c head => ?_
  rcases stop with rfl | angle
  · cases head
  · rw [angle] at head
    exact Option.some.inj head ▸ plain

theorem startsWith_append_of_stop {mark t after : Text} (plain : '<' ∉ mark)
    (stop : after = [] ∨ after.head? = some '<') :
    Text.startsWith (t ++ after) mark = Text.startsWith t mark := by
  rw [Bool.eq_iff_iff, Text.startsWith, Text.startsWith, Text.after?_isSome_iff,
    Text.after?_isSome_iff, prefix_append_iff_of_angle plain stop]

theorem Lexeme.next_cases_of_isMarkup {c : Char} {u : Text} (markup : (next c u).1.isMarkup) :
    (∃ run, (next c u).1 = .markup run ∧ '<' ∉ run) ∨ (next c u).1 = .angle ['<'] ∨
      ∃ tail, next c u = (.angle ['<', '%'], '-' :: tail) := by
  have later := angle_notMem_tail markup
  unfold next at markup later ⊢
  split at markup
  · next hc =>
    rw [if_pos hc]
    split at markup
    · exact .inr (.inl rfl)
    · exact .inr (.inr ⟨_, rfl⟩)
    · split at markup <;> cases markup
  · next hc =>
    rw [if_neg hc] at later ⊢
    refine .inl ⟨_, rfl, ?_⟩
    simpa [text, Ne.symm hc] using later

theorem Lexeme.eq_angle_of_not_isMarkup {c : Char} {u : Text} (other : ¬(next c u).1.isMarkup) :
    c = '<' := by
  by_contra plain
  rw [next, if_neg plain] at other
  exact other rfl

theorem Segment.joinRun_joinRun (front t : Text) (segs : List Segment) :
    joinRun front (joinRun t segs) = joinRun (front ++ t) segs := by
  cases segs with
  | nil => rfl
  | cons s rest =>
    cases s with
    | run u => simp only [joinRun, List.append_assoc]
    | construct | unclosed => rfl

/-- What an entry signals, given the text behind it. -/
def Lexeme.signals (start : Nat) (after : Text) : Lexeme → List Event
  | angle _ =>
    if Text.startsWith after ['f', 'm', 't', ':'] then
      [.ambiguity start "unsupported fmt tag passed through as markup"]
    else []
  | _ => []

theorem ambiguities_next {c : Char} {u t after : Text} (markup : (Lexeme.next c u).1.isMarkup)
    (rest : (Lexeme.next c u).2 = t ++ after) (stop : after = [] ∨ after.head? = some '<')
    (start : Nat) :
    ambiguities start ((Lexeme.next c u).1.text ++ t) =
      (Lexeme.next c u).1.signals start (Lexeme.next c u).2 ++
        ambiguities (start + (Lexeme.next c u).1.text.byteLength) t := by
  rcases Lexeme.next_cases_of_isMarkup markup with ⟨run, is_run, plain⟩ | angle | ⟨tail, broken⟩
  · rw [is_run]
    exact ambiguities_append_of_notMem plain start t
  · have seen : Text.startsWith ('<' :: t) ['<', 'f', 'm', 't', ':'] =
        Text.startsWith (t ++ after) ['f', 'm', 't', ':'] := by
      rw [startsWith_append_of_stop (by simp) stop]
      simp [Text.startsWith, Text.after?]
    rw [angle, rest]
    simp only [Lexeme.text, Lexeme.signals, List.cons_append, List.nil_append, ambiguities, seen]
    split <;> rfl
  · rw [broken]
    simp [Lexeme.text, Lexeme.signals, ambiguities, Text.startsWith, Text.after?, Nat.add_assoc]

section Pass

variable {source before : Text} {c : Char} {u : Text}

theorem unsupportedTag_next {mark : Text} (angle : (Lexeme.next c u).1 = .angle mark)
    (split : source = before ++ c :: u) :
    unsupportedTag source (before.byteLength + mark.byteLength) =
      (Lexeme.angle mark).signals before.byteLength (Lexeme.next c u).2 := by
  have behind : source.dropBytes (before.byteLength + mark.byteLength) = (Lexeme.next c u).2 := by
    have text : mark ++ (Lexeme.next c u).2 = c :: u := by
      rw [← Lexeme.next_text c u, angle]
      rfl
    rw [split, ← text, ← List.append_assoc, ← Text.byteLength_append, Text.dropBytes_append]
  rw [unsupportedTag, behind]
  rcases Lexeme.next_cases_of_isMarkup (by rw [angle]; rfl) with ⟨run, is_run, -⟩ | lone | ⟨tail, broken⟩
  · rw [angle] at is_run
    cases is_run
  · rw [angle] at lone
    cases lone
    rfl
  · -- a dash follows, so neither side has a signal
    rw [broken]
    rfl

theorem recognizeFrom_markup (markup : (Lexeme.next c u).1.isMarkup)
    (split : source = before ++ c :: u) (pending : Option Span) (rest : List Placed) :
    recognizeFrom source pending (⟨before.byteLength, (Lexeme.next c u).1⟩ :: rest) =
      (Lexeme.next c u).1.signals before.byteLength (Lexeme.next c u).2 ++
        recognizeFrom source
          (some (Placed.joinTo ⟨before.byteLength, (Lexeme.next c u).1⟩ pending)) rest := by
  cases l : (Lexeme.next c u).1 with
  | markup run => rfl
  | angle mark =>
    rw [recognizeFrom, ← unsupportedTag_next l split]
    rfl
  | construct k body => simp [l, Lexeme.isMarkup] at markup
  | unclosed k => simp [l, Lexeme.isMarkup] at markup

theorem recognizeFrom_other (source : Text) {l : Lexeme} (other : ¬l.isMarkup)
    (lexemes : List Lexeme) :
    ∃ s, segments (l :: lexemes) = s :: segments lexemes ∧ ¬s.isRun ∧ s.text = l.text ∧
      ∀ pending start rest, recognizeFrom source pending (⟨start, l⟩ :: rest) =
        flushMarkup source pending ++ segmentEvents start s ++ recognizeFrom source none rest := by
  cases l with
  | markup run | angle mark => exact absurd rfl other
  | construct k body =>
    exact ⟨.construct k body, rfl, by simp [Segment.isRun], rfl, fun _ _ _ => rfl⟩
  | unclosed k =>
    refine ⟨.unclosed k, rfl, by simp [Segment.isRun], rfl, fun pending start rest => ?_⟩
    have said : (LexicalError.ofSlice k.opener).message = k.unclosedMessage :=
      (LexicalError.names_opener k).message
    rw [segmentEvents, ← said]
    rfl

end Pass

/-- With any markup that follows, the run signals what it has signalled and what follows signals. -/
def Signalled (signals : List Event) (start : Nat) (run rest : Text) : Prop :=
  ∀ t after, rest = t ++ after → (after = [] ∨ after.head? = some '<') →
    ambiguities start (run ++ t) = signals ++ ambiguities (start + run.byteLength) t

theorem Signalled.next {signals : List Event} {start : Nat} {run : Text} {c : Char} {u : Text}
    (h : Signalled signals start run (c :: u)) (markup : (Lexeme.next c u).1.isMarkup) :
    Signalled (signals ++
        (Lexeme.next c u).1.signals (start + run.byteLength) (Lexeme.next c u).2)
      start (run ++ (Lexeme.next c u).1.text) (Lexeme.next c u).2 := by
  intro t after rest stop
  have whole : c :: u = (Lexeme.next c u).1.text ++ t ++ after := by
    rw [List.append_assoc, ← rest, Lexeme.next_text]
  rw [List.append_assoc, h _ after whole stop, ambiguities_next markup rest stop, List.append_assoc,
    Text.byteLength_append, Nat.add_assoc]

theorem Signalled.eq {signals : List Event} {start : Nat} {run rest : Text}
    (h : Signalled signals start run rest) (stop : rest = [] ∨ rest.head? = some '<') :
    ambiguities start run = signals := by
  have alone := h [] rest rfl stop
  rwa [List.append_nil, ambiguities, List.append_nil] at alone

theorem eventsFrom_joinRun {run : Text} {segs : List Segment}
    (apart : ∀ s ∈ segs.head?, ¬s.isRun) (start : Nat) :
    eventsFrom start (Segment.joinRun run segs) =
      ambiguities start run ++ .markup run :: eventsFrom (start + run.byteLength) segs := by
  cases segs with
  | nil => simp [Segment.joinRun, eventsFrom, segmentEvents]
  | cons s rest =>
    cases s with
    | run t => exact absurd rfl (apart _ rfl)
    | construct | unclosed => simp [Segment.joinRun, eventsFrom, segmentEvents, Segment.text]

theorem flushMarkup_some {source front run rest : Text} (split : source = front ++ run ++ rest) :
    flushMarkup source (some ⟨front.byteLength, (front ++ run).byteLength⟩) = [.markup run] := by
  rw [split, flushMarkup, Text.slice_append]

/-- From some place on the pass reports what the segments report, with nothing kept back or with a run
that has been signalled so far. -/
structure ReportsSegments (source rest : Text) : Prop where
  fresh : ∀ before, source = before ++ rest →
    recognizeFrom source none (place before.byteLength (scan rest)) =
      eventsFrom before.byteLength (segments (scan rest))
  pending : ∀ front run signals, source = front ++ run ++ rest →
    Signalled signals front.byteLength run rest →
    signals ++ recognizeFrom source (some ⟨front.byteLength, (front ++ run).byteLength⟩)
        (place (front ++ run).byteLength (scan rest)) =
      eventsFrom front.byteLength (Segment.joinRun run (segments (scan rest)))

namespace ReportsSegments

variable {source : Text} {c : Char} {u : Text}

theorem nil (source : Text) : ReportsSegments source [] where
  fresh before _ := by
    rw [scan]
    rfl
  pending front run signals split signalled := by
    rw [scan, place, recognizeFrom, flushMarkup_some split, segments, eventsFrom_joinRun (by simp),
      signalled.eq (.inl rfl), eventsFrom]

theorem markup (later : ReportsSegments source (Lexeme.next c u).2)
    (markup : (Lexeme.next c u).1.isMarkup) : ReportsSegments source (c :: u) where
  fresh before split := by
    have split' : source = before ++ (Lexeme.next c u).1.text ++ (Lexeme.next c u).2 := by
      rw [split, List.append_assoc, Lexeme.next_text]
    have onward := later.pending before _ _ split' fun t after rest stop =>
      ambiguities_next markup rest stop before.byteLength
    rw [Text.byteLength_append] at onward
    rw [scan, segments_of_isMarkup markup, place, recognizeFrom_markup markup split, ← onward]
    rfl
  pending front run signals split signalled := by
    have split' : source = front ++ (run ++ (Lexeme.next c u).1.text) ++ (Lexeme.next c u).2 := by
      rw [split, List.append_assoc, List.append_assoc, List.append_assoc, Lexeme.next_text]
    have onward := later.pending front _ _ split' (signalled.next markup)
    rw [← List.append_assoc, Text.byteLength_append (front ++ run)] at onward
    rw [scan, segments_of_isMarkup markup, Segment.joinRun_joinRun, ← onward, place,
      recognizeFrom_markup markup split, List.append_assoc, Text.byteLength_append front]
    rfl

theorem other (later : ReportsSegments source (Lexeme.next c u).2)
    (other : ¬(Lexeme.next c u).1.isMarkup) : ReportsSegments source (c :: u) := by
  obtain ⟨s, cut, alone, size, reports⟩ :=
    recognizeFrom_other source other (scan (Lexeme.next c u).2)
  have onward (before : Text) (split : source = before ++ c :: u) :
      segmentEvents before.byteLength s ++ recognizeFrom source none
          (place (before.byteLength + (Lexeme.next c u).1.text.byteLength)
            (scan (Lexeme.next c u).2)) =
        eventsFrom before.byteLength (s :: segments (scan (Lexeme.next c u).2)) := by
    have behind : source = before ++ (Lexeme.next c u).1.text ++ (Lexeme.next c u).2 := by
      rw [split, List.append_assoc, Lexeme.next_text]
    have rest := later.fresh _ behind
    rw [Text.byteLength_append] at rest
    rw [eventsFrom, size, rest]
  constructor
  · intro before split
    rw [scan, cut, place, reports, ← onward before split]
    rfl
  · intro front run signals split signalled
    -- A construct or an opener starts with `<`, so the run ends here and has signalled all it can.
    have angle := Lexeme.eq_angle_of_not_isMarkup other
    have signal := signalled.eq (.inr (by rw [angle]; rfl))
    rw [scan, cut, place, reports, flushMarkup_some split, List.append_assoc, onward _ split,
      eventsFrom_joinRun (by simpa using alone), signal, Text.byteLength_append]
    rfl

end ReportsSegments

theorem reportsSegments (source rest : Text) : ReportsSegments source rest := by
  induction rest using scan.induct with
  | case1 => exact .nil source
  | case2 c u ih =>
    by_cases markup : (Lexeme.next c u).1.isMarkup
    · exact ih.markup markup
    · exact ih.other markup

theorem recognize_eq (source : Text) : recognize source = eventsFrom 0 (segments (scan source)) :=
  (reportsSegments source source).fresh [] rfl

end JspEndpoint.Template
