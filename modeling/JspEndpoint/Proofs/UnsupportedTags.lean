import JspEndpoint.Proofs.NoticeOrder
import Mathlib.Data.List.Nodup

/-!
Tags of the bundle library that are not supported. Such a tag is markup like any other, with one
signal at its `<`. What decides is the text after the mark of the library and not the name of the
tag: an opener is recognized without a look at the character behind it. A name that goes on after the
name of a supported tag is therefore read as that tag and its attributes; all other names are passed
through.
-/

namespace JspEndpoint.Text

theorem append_inj_of_byteLength {a b s t : Text} (h : a ++ s = b ++ t)
    (same : a.byteLength = b.byteLength) : a = b ∧ s = t := by
  have no_more : ∀ {x y more : Text}, y = x ++ more → x.byteLength = y.byteLength → more = [] := by
    intro x y more split size
    by_contra ne
    have wide := byteLength_pos ne
    rw [split, byteLength_append] at size
    omega
  rcases List.append_eq_append_iff.1 h with ⟨more, split, rest⟩ | ⟨more, split, rest⟩
  · obtain rfl := no_more split same
    exact ⟨by simpa using split.symm, by simpa using rest⟩
  · obtain rfl := no_more split same.symm
    exact ⟨by simpa using split, by simpa using rest.symm⟩

end JspEndpoint.Text

namespace JspEndpoint.Template

/-- What every tag of the bundle library starts with. -/
def tagMark : Text := ['<', 'f', 'm', 't', ':']

/-- After `before` a lexeme starts, and a tag of that name stands there. The name is as long as it can
be. -/
structure TagAt (source before name : Text) : Prop where
  text : ∃ rest, source = before ++ (tagMark ++ name ++ rest) ∧
    ∀ c, rest.head? = some c → ¬Attribute.isNameChar c
  name : ∀ c ∈ name, Attribute.isNameChar c
  start : ∃ p ∈ place 0 (scan source), p.start = before.byteLength

def unsupportedMessage : Text := "unsupported fmt tag passed through as markup"

/-- The tag is part of a run of markup, of which nothing but signals is reported, and one signal is
all that is reported at its `<`. -/
structure PassedThrough (source before name : Text) : Prop where
  markup : ∃ (earlier later : List Segment) (front back : Text) (signals : List Event),
    let run := front ++ (tagMark ++ name) ++ back
    let start := Text.byteLength (earlier.flatMap Segment.text)
    segments (scan source) = earlier ++ .run run :: later ∧
      before = earlier.flatMap Segment.text ++ front ∧
      recognize source = eventsFrom 0 earlier ++ (signals ++ [.markup run]) ++
        eventsFrom (start + run.byteLength) later ∧
      ∀ e ∈ signals, ∃ offset, e = .ambiguity offset unsupportedMessage
  signal : ((recognize source).map (Event.told source)).filter
      (fun told => told.position = some (Position.ofOffset source before.byteLength)) =
    [(Event.ambiguity before.byteLength unsupportedMessage).told source]

theorem exists_scan_eq_append {start : Nat} {source : Text} {p : Placed}
    (h : p ∈ place start (scan source)) :
    ∃ (front : List Lexeme) (t : Text), scan source = front ++ scan t ∧
      p.start = start + Text.byteLength (front.flatMap Lexeme.text) := by
  fun_induction scan source generalizing start with
  | case1 => cases h
  | case2 c t ih =>
    rcases List.mem_cons.1 h with rfl | later
    · exact ⟨[], c :: t, by rw [List.nil_append, scan], rfl⟩
    · obtain ⟨front, u, split, place⟩ := ih later
      refine ⟨(Lexeme.next c t).1 :: front, u, by rw [split, List.cons_append], ?_⟩
      rw [place, List.flatMap_cons, Text.byteLength_append, Nat.add_assoc]

theorem segments_append_run (front : List Lexeme) {lexemes : List Lexeme} {t : Text}
    {more : List Segment} (h : segments lexemes = .run t :: more) :
    ∃ earlier before, segments (front ++ lexemes) = earlier ++ .run (before ++ t) :: more ∧
      front.flatMap Lexeme.text = earlier.flatMap Segment.text ++ before := by
  induction front with
  | nil => exact ⟨[], [], h, rfl⟩
  | cons l front ih =>
    obtain ⟨earlier, before, split, text⟩ := ih
    rw [List.cons_append, List.flatMap_cons, text]
    cases l with
    | markup u | angle u =>
      by_cases first : earlier = []
      · refine ⟨[], u ++ before, ?_, by simp [first, Lexeme.text]⟩
        simp [segments, split, first, Segment.joinRun]
      · refine ⟨Segment.joinRun u earlier, before, ?_, ?_⟩
        · rw [segments, split, Segment.joinRun_append u first]
        · rw [Segment.joinRun_text, List.append_assoc]
          rfl
    | construct k body =>
      refine ⟨.construct k body :: earlier, before, by rw [segments, split]; rfl, ?_⟩
      rw [List.flatMap_cons, List.append_assoc]
      rfl
    | unclosed k =>
      refine ⟨.unclosed k :: earlier, before, by rw [segments, split]; rfl, ?_⟩
      rw [List.flatMap_cons, List.append_assoc]
      rfl

theorem recognize_of_segments {source run : Text} {earlier later : List Segment}
    (h : segments (scan source) = earlier ++ .run run :: later) :
    let start := Text.byteLength (earlier.flatMap Segment.text)
    recognize source = eventsFrom 0 earlier ++ (ambiguities start run ++ [.markup run]) ++
      eventsFrom (start + run.byteLength) later := by
  intro start
  rw [recognize_eq, h, eventsFrom_append, Nat.zero_add, eventsFrom, List.append_assoc]
  rfl

theorem filter_ambiguities {run front : Text} (start : Nat) (h : front ++ tagMark <+: run) :
    (ambiguities start run).filter (fun e => e.offset? = some (start + front.byteLength)) =
      [.ambiguity (start + front.byteLength) unsupportedMessage] := by
  obtain ⟨offsets, signals, ordered, found⟩ := signalsOf_ambiguities start run
  have inside : start + front.byteLength ∈ offsets := (found _).2 ⟨front, h, rfl⟩
  have once : offsets.count (start + front.byteLength) = 1 :=
    List.count_eq_one_of_mem (ordered.imp Nat.ne_of_lt) inside
  have same : offsets.filter (fun offset => offset = start + front.byteLength) =
      [start + front.byteLength] := by
    rw [List.filter_eq, once]
    rfl
  have picked : offsets.filter (fun offset =>
      (Event.ambiguity offset unsupportedMessage).offset? = some (start + front.byteLength)) =
      [start + front.byteLength] := by
    simpa [Event.offset?] using same
  rw [signals, List.filter_map]
  exact congrArg (List.map (Event.ambiguity · unsupportedMessage)) picked

theorem filter_eventsFrom_eq_nil {start offset : Nat} {segs : List Segment}
    (h : offset < start ∨ start + Text.byteLength (segs.flatMap Segment.text) ≤ offset) :
    (eventsFrom start segs).filter (fun e => e.offset? = some offset) = [] := by
  refine List.filter_eq_nil_iff.2 fun e reported => ?_
  rw [decide_eq_true_eq]
  intro found
  have bounds := (eventsFrom_within reported).bounds found
  omega

theorem filter_recognize_run {source run front : Text} {earlier later : List Segment}
    (h : segments (scan source) = earlier ++ .run run :: later) (inside : front ++ tagMark <+: run) :
    let offset := Text.byteLength (earlier.flatMap Segment.text ++ front)
    (recognize source).filter (fun e => e.offset? = some offset) =
      [.ambiguity offset unsupportedMessage] := by
  intro offset
  have place : offset =
      Text.byteLength (earlier.flatMap Segment.text) + front.byteLength := Text.byteLength_append _ _
  have short : front.byteLength < run.byteLength := by
    obtain ⟨more, rfl⟩ := inside
    have wide : 0 < tagMark.byteLength := by decide
    simp only [Text.byteLength_append]
    omega
  rw [recognize_of_segments h, List.filter_append, List.filter_append, List.filter_append,
    filter_eventsFrom_eq_nil (.inr (by omega)), filter_eventsFrom_eq_nil (.inl (by omega)), place,
    filter_ambiguities _ inside]
  rfl

theorem filter_told (source : Text) (events : List Event) (offset : Nat) :
    (events.map (Event.told source)).filter
        (fun told => told.position = some (Position.ofOffset source offset)) =
      (events.filter fun e => e.offset? = some offset).map (Event.told source) := by
  rw [List.filter_map]
  congr 2
  funext e
  have injective := (Position.ofOffset_strictMono source).injective
  cases place : e.offset? with
  | none => simp [Event.told, place]
  | some other => simp [Event.told, place, injective.eq_iff]

theorem passedThrough_of_segments {source before name front back : Text}
    {earlier later : List Segment}
    (h : segments (scan source) = earlier ++ .run (front ++ (tagMark ++ name) ++ back) :: later)
    (text : before = earlier.flatMap Segment.text ++ front) : PassedThrough source before name := by
  obtain ⟨offsets, signals, -⟩ := signalsOf_ambiguities
    (Text.byteLength (earlier.flatMap Segment.text)) (front ++ (tagMark ++ name) ++ back)
  refine ⟨⟨earlier, later, front, back, _, h, text, recognize_of_segments h, ?_⟩, ?_⟩
  · intro e inside
    rw [signals] at inside
    obtain ⟨offset, -, rfl⟩ := List.mem_map.1 inside
    exact ⟨offset, rfl⟩
  · have inside : front ++ tagMark <+: front ++ (tagMark ++ name) ++ back :=
      ⟨name ++ back, by simp⟩
    rw [filter_told, text, filter_recognize_run h inside]
    rfl

/-- The names of the supported tags. -/
def supportedNames : List Text := ["message", "setBundle"]

theorem opener_eq_tagMark {word : Text} (h : word ∈ supportedNames) :
    ∃ k : Construct, k ≠ .scriptlet ∧ k.opener = tagMark ++ word := by
  rcases List.mem_cons.1 h with rfl | h
  · exact ⟨.bundleMessage, by decide, rfl⟩
  · rw [List.mem_singleton.1 h]
    exact ⟨.bundleSet, by decide, rfl⟩

theorem isNameChar_of_supported {word : Text} (h : word ∈ supportedNames) :
    ∀ c ∈ word, Attribute.isNameChar c := by
  have names : ∀ word ∈ supportedNames, word.all Attribute.isNameChar := by decide +kernel
  exact List.all_eq_true.1 (names word h)

theorem opened?_tagMark {name rest : Text} (other : ∀ word ∈ supportedNames, ¬word <+: name)
    (stop : ∀ c, rest.head? = some c → ¬Attribute.isNameChar c) :
    Construct.opened? (tagMark ++ name ++ rest) = none := by
  have absent : ∀ word ∈ supportedNames, ¬tagMark ++ word <+: tagMark ++ name ++ rest := by
    intro word supported starts
    rw [List.append_assoc, List.prefix_append_right_inj] at starts
    refine other word supported ((prefix_append_iff_of_stop ?_).1 starts)
    exact fun c head inside => stop c head (isNameChar_of_supported supported c inside)
  rw [Option.eq_none_iff_forall_ne_some]
  rintro ⟨k, tail⟩ opened
  have starts : k.opener <+: tagMark ++ name ++ rest :=
    ⟨tail, (Construct.eq_of_opened? opened).symm⟩
  cases k with
  | bundleMessage => exact absent "message" (by decide) starts
  | bundleSet => exact absent "setBundle" (by decide) starts
  | _ => simp [Construct.opener, tagMark] at starts

theorem exists_run_of_opened? {name rest : Text} (names : ∀ c ∈ name, Attribute.isNameChar c)
    (h : Construct.opened? (tagMark ++ name ++ rest) = none) :
    ∃ back more, segments (scan (tagMark ++ name ++ rest)) =
      .run (tagMark ++ name ++ back) :: more := by
  let word : Text := ['f', 'm', 't', ':'] ++ name
  have scanned : scan ('<' :: (word ++ rest)) = .angle ['<'] :: scan (word ++ rest) := by
    have unopened : Construct.opened? ('<' :: (word ++ rest)) = none := h
    have next : Lexeme.next '<' (word ++ rest) = (.angle ['<'], word ++ rest) := by
      rw [Lexeme.next, if_pos rfl, unopened]
    rw [scan, next]
  obtain ⟨t, more, joined, -⟩ := Segment.joinRun_eq ['<'] (segments (scan (word ++ rest)))
  have first : segments (scan ('<' :: (word ++ rest))) = .run ('<' :: t) :: more := by
    rw [scanned, segments, joined]
    rfl
  obtain ⟨after, split, stop⟩ := stop_of_head_run first
  have plain : '<' ∉ word := by
    intro inside
    rcases List.mem_append.1 inside with mark | name
    · simp at mark
    · exact absurd (names '<' name) (by decide)
  have whole : word <+: t ++ after := ⟨rest, (List.cons.inj split).2⟩
  obtain ⟨back, rfl⟩ := (prefix_append_iff_of_angle plain stop).1 whole
  exact ⟨back, more, first⟩

/-- A tag is passed through exactly if its name does not start with that of a supported tag. -/
theorem recognize_unsupported_tag (source before name : Text) (h : TagAt source before name) :
    PassedThrough source before name ↔ ∀ word ∈ supportedNames, ¬word <+: name := by
  constructor
  · rintro ⟨⟨earlier, later, front, back, -, split, -⟩, -⟩ word supported ⟨more, rfl⟩
    obtain ⟨k, other, opener⟩ := opener_eq_tagMark supported
    have inside : .run (front ++ (tagMark ++ (word ++ more)) ++ back) ∈ segments (scan source) :=
      split ▸ List.mem_append_right earlier List.mem_cons_self
    have occurs : front ++ (tagMark ++ (word ++ more)) ++ back =
        front ++ k.opener ++ (more ++ back) := by
      rw [opener]
      simp
    exact other (opener_in_run inside occurs).1
  · intro other
    obtain ⟨rest, text, stop⟩ := h.text
    obtain ⟨p, placed, start⟩ := h.start
    obtain ⟨front, t, scanned, place⟩ := exists_scan_eq_append placed
    have whole : front.flatMap Lexeme.text ++ t = before ++ (tagMark ++ name ++ rest) := by
      rw [← text, ← scan_text source, scanned, List.flatMap_append, scan_text]
    obtain ⟨same, rfl⟩ := Text.append_inj_of_byteLength whole (by omega)
    obtain ⟨back, more, run⟩ := exists_run_of_opened? h.name (opened?_tagMark other stop)
    obtain ⟨earlier, inner, split, texts⟩ := segments_append_run front run
    rw [← scanned, ← List.append_assoc] at split
    exact passedThrough_of_segments split (same.symm.trans texts)

theorem recognize_unsupported_tag_cut_short :
    let source : Text := "a\n<fmt:mess age>"
    TagAt source "a\n" "mess" ∧ PassedThrough source "a\n" "mess" := by
  intro source
  have tag : TagAt source "a\n" "mess" := by
    refine ⟨⟨" age>", rfl, ?_⟩, List.all_eq_true.1 (by decide),
      ⟨⟨2, .angle ['<']⟩, by decide +kernel, by decide⟩⟩
    rintro c ⟨rfl⟩
    decide
  exact ⟨tag, (recognize_unsupported_tag source "a\n" "mess" tag).2 (by decide)⟩

/-- The name is not that of a supported tag, yet the tag is read as one and refused. -/
theorem recognize_takes_longer_name :
    let source : Text := "<fmt:messages/>"
    TagAt source [] "messages" ∧ ("messages" : Text) ∉ supportedNames ∧
      recognize source = [.problem 13 "unexpected '/' in <fmt:message> attributes"] ∧
      ¬PassedThrough source [] "messages" := by
  intro source
  have reported : recognize source =
      [.problem 13 "unexpected '/' in <fmt:message> attributes"] := by decide +kernel
  refine ⟨⟨⟨"/>", rfl, ?_⟩, List.all_eq_true.1 (by decide), ?_⟩, by decide, reported,
    fun passed => ?_⟩
  · rintro c ⟨rfl⟩
    decide
  · exact ⟨⟨0, .construct .bundleMessage "s/"⟩, by decide +kernel, rfl⟩
  · have signal := passed.signal
    rw [reported] at signal
    revert signal
    decide +kernel

end JspEndpoint.Template
