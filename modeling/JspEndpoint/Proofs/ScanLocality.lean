import JspEndpoint.Proofs.EventOffsets
import JspEndpoint.Proofs.LineColumns
import JspEndpoint.Proofs.WrittenTags

/-!
Recognition is local. A template that ends with a closed construct, and holds no open one, is
recognized alike whatever follows it, and what follows is recognized as if it stood alone; only
positions move. The search for end marks looks ahead without bound and openers depend on what comes
after them, but all that was found in the first part is found again before its end.
-/

namespace JspEndpoint.Template

/-- The text has no unclosed construct, and a construct is the last of its lexemes. -/
def EndsClosed (s : Text) : Prop :=
  (∀ l ∈ scan s, ∃ kind, l.kind = .ok kind) ∧ ∃ k body, (scan s).getLast? = some (.construct k body)

theorem EndsClosed.angle_mem {s : Text} (h : EndsClosed s) : '<' ∈ s := by
  obtain ⟨-, k, body, last⟩ := h
  obtain ⟨u, opener⟩ := k.opener_eq_cons
  have inside : '<' ∈ (Lexeme.construct k body).text := by simp [Lexeme.text, opener]
  rw [← scan_text s]
  exact List.mem_flatMap.2 ⟨_, List.mem_of_getLast? last, inside⟩

/-- The text holds a character that no opener goes on with. -/
def Settled (t : Text) : Prop := '<' ∈ t ∨ '>' ∈ t

theorem Settled.prefix_append_iff {t : Text} (h : Settled t) {mark : Text}
    (free : ¬Settled mark.tail) (c : Char) (more : Text) :
    mark <+: c :: (t ++ more) ↔ mark <+: c :: t := by
  constructor
  · intro starts
    have longer : c :: t <+: c :: (t ++ more) := ⟨more, rfl⟩
    rcases List.prefix_or_prefix_of_prefix starts longer with short | long
    · exact short
    · obtain ⟨rest, same⟩ := long
      refine absurd ?_ free
      rw [← same, List.cons_append, List.tail_cons]
      exact h.imp (List.mem_append_left rest) (List.mem_append_left rest)
  · intro starts
    exact starts.trans ⟨more, rfl⟩

theorem not_settled_opener (k : Kind) : ¬Settled k.opener.tail := by
  cases k with
  | construct k => cases k <;> simp [Settled, Kind.opener, Construct.opener]
  | angle | markup => simp [Settled, Kind.opener]

namespace Settled

variable {t : Text}

theorem longestOpener_iff (h : Settled t) (k : Kind) (c : Char) (more : Text) :
    LongestOpener k (c :: (t ++ more)) ↔ LongestOpener k (c :: t) := by
  simp only [LongestOpener, h.prefix_append_iff (not_settled_opener _)]

theorem breaksOff_iff (h : Settled t) (c : Char) (more : Text) :
    BreaksOff (c :: (t ++ more)) ↔ BreaksOff (c :: t) := by
  have dash : ¬Settled (['<', '%', '-'] : Text).tail := by simp [Settled]
  have dashes : ¬Settled (['<', '%', '-', '-'] : Text).tail := by simp [Settled]
  simp only [BreaksOff, h.prefix_append_iff dash, h.prefix_append_iff dashes]

theorem opened?_append (h : Settled t) (more : Text) :
    Construct.opened? ('<' :: (t ++ more)) =
      (Construct.opened? ('<' :: t)).map fun (k, tail) => (k, tail ++ more) := by
  cases opened : Construct.opened? ('<' :: t) with
  | none =>
    have longest := opened?_eq_none_iff.1 opened
    exact opened?_eq_none_iff.2 ((h.longestOpener_iff _ _ more).2 longest)
  | some found =>
    obtain ⟨longest, start⟩ := opened?_eq_some_iff.1 opened
    refine opened?_eq_some_iff.2 ⟨(h.longestOpener_iff _ _ more).2 longest, ?_⟩
    rw [← List.append_assoc, ← start, List.cons_append]

end Settled

theorem close?_append {k : Construct} {t body rest : Text} (h : k.close? t = some (body, rest))
    (more : Text) : k.close? (t ++ more) = some (body, rest ++ more) := by
  obtain ⟨ends, first⟩ := Construct.close?_eq_some_iff.1 h
  refine Construct.close?_eq_some_iff.2 ⟨⟨?_, ends.2⟩, fun body' rest' other => ?_⟩
  · rw [ends.1, List.append_assoc]
  · apply Nat.le_of_not_lt
    intro earlier
    -- an end mark before the first one would stand in `t` already
    have within : body' ++ k.closer <+: t := by
      have long : t <+: t ++ more := ⟨more, rfl⟩
      have start : body' ++ k.closer <+: t ++ more := ⟨rest', other.1.symm⟩
      refine List.prefix_of_prefix_length_le start long ?_
      have size := congrArg List.length ends.1
      simp only [List.length_append] at size ⊢
      omega
    obtain ⟨rest'', same⟩ := within
    have bound := first body' rest'' ⟨same.symm, other.2⟩
    omega

namespace Lexeme

theorem settled_of_next {c : Char} {t : Text}
    (h : (∃ k body, (next c t).1 = construct k body) ∨ '<' ∈ (next c t).2) (angle : c = '<') :
    Settled t := by
  have whole := next_text c t
  rcases h with ⟨k, body, found⟩ | later
  · have close : '>' ∈ k.closer := by cases k <;> simp [Construct.closer]
    have inside : '>' ∈ c :: t := by
      rw [← whole, found]
      simp [text, close]
    rw [angle] at inside
    exact .inr (by simpa using inside)
  · obtain ⟨d, front, split⟩ := List.exists_cons_of_ne_nil (next_text_ne_nil c t)
    rw [split, List.cons_append] at whole
    have tail : front ++ (next c t).2 = t := (List.cons.inj whole).2
    rw [← tail]
    exact .inl (List.mem_append_right front later)

theorem next_fst_append_of_settled {t : Text} (settled : Settled t)
    (closed : ∀ k, (next '<' t).1 ≠ unclosed k) (more : Text) :
    (next '<' (t ++ more)).1 = (next '<' t).1 := by
  by_cases broken : BreaksOff ('<' :: t)
  · rw [next_of_breaksOff broken, next_of_breaksOff ((settled.breaksOff_iff _ _).2 broken)]
  · have whole : ¬BreaksOff ('<' :: (t ++ more)) := mt (settled.breaksOff_iff _ _).1 broken
    have longer := settled.opened?_append more
    cases opened : Construct.opened? ('<' :: t) with
    | none =>
      rw [opened] at longer
      simp [next, opened, longer]
    | some found =>
      rw [opened] at longer
      rw [next_of_opened opened broken] at closed ⊢
      rw [next_of_opened longer whole]
      cases ends : found.1.close? found.2 with
      | none => simp [ends] at closed
      | some cut => rw [close?_append ends]

theorem next_fst_append_of_ne {c : Char} (angle : c ≠ '<') {t : Text} (h : (next c t).2 ≠ [])
    (more : Text) : (next c (t ++ more)).1 = (next c t).1 := by
  have rest : t.dropWhile notAngle ≠ [] := by rwa [next, if_neg angle] at h
  have stops : (t ++ more).takeWhile notAngle = t.takeWhile notAngle := by
    have split := congrArg List.length (t.takeWhile_append_dropWhile (p := notAngle))
    have some_left := List.length_pos_iff.2 rest
    rw [List.length_append] at split
    rw [List.takeWhile_append, if_neg (by omega)]
  rw [next, if_neg angle, next, if_neg angle, stops]

theorem next_append {c : Char} {t : Text} (closed : ∀ k, (next c t).1 ≠ unclosed k)
    (h : (∃ k body, (next c t).1 = construct k body) ∨ '<' ∈ (next c t).2) (more : Text) :
    next c (t ++ more) = ((next c t).1, (next c t).2 ++ more) := by
  have same : (next c (t ++ more)).1 = (next c t).1 := by
    by_cases angle : c = '<'
    · have settled := settled_of_next h angle
      subst angle
      exact next_fst_append_of_settled settled closed more
    · have later : '<' ∈ (next c t).2 := by
        refine h.resolve_left ?_
        rw [next, if_neg angle]
        simp
      exact next_fst_append_of_ne angle (List.ne_nil_of_mem later) more
  have parts := next_text c (t ++ more)
  rw [same, ← List.cons_append, ← next_text c t, List.append_assoc] at parts
  exact Prod.ext same (List.append_cancel_left parts)

end Lexeme

theorem scan_eq_nil {t : Text} : scan t = [] ↔ t = [] := by
  cases t <;> simp [scan]

theorem scan_append {front : Text} (h : front = [] ∨ EndsClosed front) (more : Text) :
    scan (front ++ more) = scan front ++ scan more := by
  fun_induction scan front with
  | case1 => rfl
  | case2 c t ih =>
    have closed : EndsClosed (c :: t) := h.resolve_left (List.cons_ne_nil c t)
    rw [EndsClosed, scan] at closed
    obtain ⟨kinds, k, body, last⟩ := closed
    obtain ⟨⟨kind, first⟩, others⟩ := List.forall_mem_cons.1 kinds
    have known : ∀ k, (Lexeme.next c t).1 ≠ .unclosed k := by
      intro k found
      rw [found, Lexeme.kind] at first
      cases first
    -- the construct that ends the text is this lexeme or ends what follows it
    have rest : (Lexeme.next c t).2 = [] ∨ EndsClosed (Lexeme.next c t).2 := by
      by_cases empty : (Lexeme.next c t).2 = []
      · exact .inl empty
      · refine .inr ⟨others, k, body, ?_⟩
        rwa [List.getLast?_cons_of_ne_nil (mt scan_eq_nil.1 empty)] at last
    have here : (∃ k body, (Lexeme.next c t).1 = .construct k body) ∨
        '<' ∈ (Lexeme.next c t).2 := by
      rcases rest with empty | closed
      · rw [empty, scan] at last
        exact .inl ⟨k, body, Option.some.inj last⟩
      · exact .inr closed.angle_mem
    rw [List.cons_append, scan, Lexeme.next_append known here, ih rest, List.cons_append]

theorem place_append (start : Nat) (front rest : List Lexeme) :
    place start (front ++ rest) = place start front ++
      place (start + Text.byteLength (front.flatMap Lexeme.text)) rest := by
  induction front generalizing start with
  | nil => rfl
  | cons l front ih =>
    rw [List.cons_append, place, place, ih, List.cons_append, List.flatMap_cons,
      Text.byteLength_append, Nat.add_assoc]

theorem segments_eq_nil {lexemes : List Lexeme} : segments lexemes = [] ↔ lexemes = [] := by
  cases lexemes with
  | nil => simp [segments]
  | cons l rest =>
    cases l <;> simp only [segments, Segment.joinRun, reduceCtorEq, iff_false] <;> split <;> simp

theorem Segment.joinRun_append (front : Text) {segs : List Segment} (ne : segs ≠ [])
    (more : List Segment) : joinRun front (segs ++ more) = joinRun front segs ++ more := by
  cases segs with
  | nil => exact absurd rfl ne
  | cons s rest => cases s <;> rfl

theorem segments_append {front : List Lexeme}
    (h : front = [] ∨ ∃ k body, front.getLast? = some (.construct k body)) (rest : List Lexeme) :
    segments (front ++ rest) = segments front ++ segments rest := by
  induction front with
  | nil => rfl
  | cons l front ih =>
    obtain ⟨k, body, last⟩ := h.resolve_left (List.cons_ne_nil l front)
    by_cases empty : front = []
    · subst empty
      obtain rfl := Option.some.inj last
      rfl
    · rw [List.getLast?_cons_of_ne_nil empty] at last
      have joined := ih (.inr ⟨k, body, last⟩)
      have some_left := mt segments_eq_nil.1 empty
      cases l with
      | markup t | angle t =>
        rw [List.cons_append, segments, joined, Segment.joinRun_append t some_left, segments]
      | construct | unclosed => rw [List.cons_append, segments, joined, segments, List.cons_append]

theorem eventsFrom_append (start : Nat) (front rest : List Segment) :
    eventsFrom start (front ++ rest) = eventsFrom start front ++
      eventsFrom (start + Text.byteLength (front.flatMap Segment.text)) rest := by
  induction front generalizing start with
  | nil => rfl
  | cons s front ih =>
    rw [List.cons_append, eventsFrom, ih, eventsFrom, List.append_assoc, List.flatMap_cons,
      Text.byteLength_append, Nat.add_assoc]

theorem recognize_append {front : Text} (h : front = [] ∨ EndsClosed front) (rest : Text) :
    recognize (front ++ rest) = recognize front ++
      (recognize rest).map (Event.mapOffset (· + front.byteLength)) := by
  have last : scan front = [] ∨ ∃ k body, (scan front).getLast? = some (.construct k body) :=
    h.imp scan_eq_nil.2 fun closed => closed.2
  rw [recognize_eq, recognize_eq, recognize_eq, scan_append h, segments_append last,
    eventsFrom_append, segments_text, scan_text, eventsFrom_add]

/-- A position as it is counted when a text is put in front. -/
def Position.after (front : Text) (p : Position) : Position :=
  ⟨p.line + front.count '\n',
    if p.line = 1 then p.column + (Text.lastLine front).byteLength else p.column⟩

theorem Position.ofOffset_after (before front back : Text) :
    ofOffset (before ++ (front ++ back)) (before.byteLength + front.byteLength) =
      (ofOffset (front ++ back) front.byteLength).after before := by
  have whole := ofOffset_append (before ++ front) back
  rw [List.append_assoc, Text.byteLength_append] at whole
  rw [whole, ofOffset_append, after, List.count_append]
  by_cases h : '\n' ∈ front
  · have later : front.count '\n' ≠ 0 := Nat.ne_of_gt (List.count_pos_iff.2 h)
    simp only [Text.lastLine_append_of_mem before h, mk.injEq]
    rw [if_neg (by omega)]
    omega
  · have none_here := List.count_eq_zero_of_not_mem h
    simp only [Text.lastLine_append_of_notMem before h, Text.lastLine_of_notMem h, none_here,
      Text.byteLength_append, mk.injEq, if_pos]
    omega

/-- What a listener is told of an event: a line and a column in place of an offset. -/
structure Told where
  content : Event
  position : Option Position
  deriving DecidableEq, Repr

def Event.told (source : Text) (e : Event) : Told :=
  ⟨e.mapOffset fun _ => 0, e.offset?.map (Position.ofOffset source)⟩

def Told.after (front : Text) (told : Told) : Told :=
  { told with position := told.position.map (Position.after front) }

theorem told_append {front : Text} {e : Event} (h : e.Within 0 front) (rest : Text) :
    e.told (front ++ rest) = e.told front := by
  cases place : e.offset? with
  | none => simp [Event.told, place]
  | some offset =>
    obtain ⟨before, back, rfl, -, at_char⟩ := h offset place
    rw [Nat.zero_add] at at_char
    simp [Event.told, place, at_char, Position.ofOffset_append]

theorem told_mapOffset {rest : Text} {e : Event} (h : e.Within 0 rest) (front : Text) :
    (e.mapOffset (· + front.byteLength)).told (front ++ rest) = (e.told rest).after front := by
  cases place : e.offset? with
  | none => simp [Event.told, Told.after, place, Function.comp_def]
  | some offset =>
    obtain ⟨before, back, rfl, -, at_char⟩ := h offset place
    rw [Nat.zero_add] at at_char
    have moved := Position.ofOffset_after front before back
    rw [Nat.add_comm] at moved
    simp [Event.told, Told.after, place, Function.comp_def, at_char, moved]

/-- A template that ends with a closed construct and what follows it are scanned and recognized each
as if alone. -/
theorem recognition_is_local (front rest : Text) (h : front = [] ∨ EndsClosed front) :
    place 0 (scan (front ++ rest)) =
        place 0 (scan front) ++ shift front.byteLength (place 0 (scan rest)) ∧
      (recognize (front ++ rest)).map (Event.told (front ++ rest)) =
        (recognize front).map (Event.told front) ++
          (recognize rest).map fun e => (e.told rest).after front := by
  constructor
  · rw [scan_append h, place_append, scan_text, place_add]
  · rw [recognize_append h, List.map_append, List.map_map]
    congr 1
    · exact List.map_congr_left fun e he => told_append (recognize_within he) rest
    · exact List.map_congr_left fun e he => told_mapOffset (recognize_within he) front

theorem recognition_is_local_after_scriptlet :
    let front : Text := "a\n<% b %>"
    let rest : Text := "é<%=\n<%@ c= %>"
    EndsClosed front ∧
      place 0 (scan (front ++ rest)) =
        place 0 (scan front) ++ shift front.byteLength (place 0 (scan rest)) ∧
      (recognize (front ++ rest)).map (Event.told (front ++ rest)) =
        (recognize front).map (Event.told front) ++
          (recognize rest).map fun e => (e.told rest).after front := by
  intro front rest
  have scanned : scan front = [.markup "a\n", .construct .scriptlet " b "] := by decide +kernel
  have closed : EndsClosed front := by
    rw [EndsClosed, scanned]
    simp [Lexeme.kind]
  exact ⟨closed, recognition_is_local front rest (.inr closed)⟩

end JspEndpoint.Template
