import JspEndpoint.Decimal.Basic
import JspEndpoint.Proofs.ConversionProblems
import JspEndpoint.Proofs.EventOffsets
import JspEndpoint.Proofs.LineColumns
import JspEndpoint.Proofs.ScanTiles
import JspEndpoint.Proofs.WrittenAttributes

/-!
Where a body that cannot be read is reported. The readers of directives and tags count characters,
offsets count bytes from the start of the template, and positions count lines and bytes of a line. All
three agree: read back, a reported position is that of the character that the message shows, or that
of the end mark if the body ends too early. No two characters are shown alike.
-/

namespace JspEndpoint.Text

/-- The character that a shown form stands for: itself, a letter after a backslash, or a code. -/
def readShown : Text → Option Char
  | [] => none
  | [c] => some c
  | [_, letter] =>
    some (if letter = 't' then '\t' else if letter = 'r' then '\r' else
      if letter = 'n' then '\n' else letter)
  | _ :: _ :: _ :: digits => (digits? 16 digits.dropLast).map Char.ofNat

theorem readShown_escapeCode (c : Char) : readShown (escapeCode c) = some c := by
  have digits : (hex 1 c.toNat ++ ['}']).dropLast = hex 1 c.toNat := List.dropLast_concat
  have read : readShown (escapeCode c) =
      (digits? 16 (hex 1 c.toNat ++ ['}']).dropLast).map Char.ofNat := rfl
  rw [read, digits, digits?_hex, Option.map_some, Char.ofNat_toNat]

theorem readShown_shownChar (c : Char) : readShown (shownChar c) = some c := by
  unfold shownChar
  split
  · next tab => simp [tab, readShown]
  split
  · next back => simp [back, readShown]
  split
  · next feed => simp [feed, readShown]
  split
  · next marked => rcases marked with rfl | rfl | rfl <;> simp [readShown]
  split
  · rfl
  · exact readShown_escapeCode c

theorem shownChar_inj {c d : Char} : shownChar c = shownChar d ↔ c = d := by
  constructor
  · intro same
    have read := readShown_shownChar c
    rw [same, readShown_shownChar] at read
    exact (Option.some.inj read).symm
  · rintro rfl
    rfl

/-- The character that starts at an offset. -/
def charAt? : Text → Nat → Option Char
  | [], _ => none
  | c :: t, offset =>
    if offset = 0 then some c
    else if offset < c.utf8Size then none
    else charAt? t (offset - c.utf8Size)

theorem charAt?_append (front back : Text) :
    charAt? (front ++ back) front.byteLength = back.head? := by
  induction front with
  | nil => cases back <;> rfl
  | cons c front ih =>
    have wide := c.utf8Size_pos
    rw [List.cons_append, charAt?, byteLength_cons, if_neg (by omega), if_neg (by omega),
      Nat.add_sub_cancel_left, ih]

end JspEndpoint.Text

namespace JspEndpoint.Template

/-- The body of a construct is read and cannot be. -/
def Construct.Rejects : Construct → Text → Failure → Prop
  | directive, body, failure => readDirective body = .error failure
  | bundleMessage, body, failure | bundleSet, body, failure => readTag body = .error failure
  | _, _, _ => False

/-- What the body is called in messages. -/
def Construct.bodyTitle (k : Construct) : Text :=
  if k.isBundleTag then k.title ++ " attributes" else "directive"

namespace Construct.Rejects

variable {k : Construct} {body : Text} {failure : Failure}

theorem split (h : k.Rejects body failure) :
    ∃ front back, body = front ++ back ∧ failure.byteOffset body = front.byteLength ∧
      failure.found = back.head? := by
  have cut : ∃ front back, body = front ++ back ∧ failure.index = 0 + front.length ∧
      failure.found = back.head? := by
    cases k with
    | directive | bundleMessage | bundleSet =>
      obtain ⟨front, back, -, split, rfl, -, -⟩ := Machine.stuck_of_run_error h
      exact ⟨front, back, split, rfl, rfl⟩
    | _ => exact h.elim
  obtain ⟨front, back, rfl, place, found⟩ := cut
  refine ⟨front, back, rfl, ?_, found⟩
  rw [Failure.byteOffset, Text.byteOffset, place, Nat.zero_add, List.take_left]

theorem constructEvents_eq (h : k.Rejects body failure) (start : Nat) :
    constructEvents start k body =
      [.problem (start + k.opener.byteLength + failure.byteOffset body)
        (failure.message k.bodyTitle)] := by
  cases k with
  | directive =>
    have read : readDirective body = .error failure := h
    rw [constructEvents, directiveEvents, read]
    rfl
  | bundleMessage | bundleSet =>
    have read : readTag body = .error failure := h
    rw [constructEvents, bundleTagEvents, read]
    rfl
  | _ => exact h.elim

end Construct.Rejects

/-- The lexeme is a construct of that kind with a body that cannot be read. -/
def Lexeme.Rejected (l : Lexeme) (k : Construct) : Prop :=
  ∃ body failure, l = .construct k body ∧ k.Rejects body failure

/-- The offset stands in the body of the construct, and what the message says is found there. -/
structure PointsInto (source : Text) (p : Placed) (k : Construct) (offset : Nat) (message : Text) :
    Prop where
  boundary : source.Boundary offset
  inside : p.start + k.opener.byteLength ≤ offset ∧ offset < p.stop
  /-- There are two messages. -/
  worded : (∃ x, message = "unexpected '" ++ x ++ "' in " ++ k.bodyTitle) ∨
    message = "unexpected end of " ++ k.bodyTitle
  /-- The character at the offset is the only one that is shown in this way. -/
  shown : ∀ x, message = "unexpected '" ++ x ++ "' in " ++ k.bodyTitle →
    ∃ c, source.charAt? offset = some c ∧ ∀ d, Text.shownChar d = x ↔ d = c
  /-- The end mark starts at the offset and ends with the construct. -/
  ended : message = "unexpected end of " ++ k.bodyTitle →
    offset + k.closer.byteLength = p.stop ∧ source.bytes.extract offset p.stop = k.closer.bytes

theorem prefix_of_prefix_append {mark head t : Text} (h : mark <+: head ++ t)
    (short : mark.length ≤ head.length) : mark <+: head :=
  List.prefix_of_prefix_length_le h (List.prefix_append head t) short

theorem shown_ne_ended (x context : Text) :
    ("unexpected '" ++ x ++ "' in " ++ context : Text) ≠ "unexpected end of " ++ context := by
  intro same
  have starts : ("unexpected '" : Text) <+: "unexpected end of " ++ context := by
    rw [← same, List.append_assoc, List.append_assoc]
    exact List.prefix_append _ _
  exact absurd (prefix_of_prefix_append starts (by decide)) (by decide +kernel)

namespace Failure

variable {failure : Failure} {context : Text}

theorem found_of_message_shown {x : Text}
    (h : failure.message context = "unexpected '" ++ x ++ "' in " ++ context) :
    ∃ c, failure.found = some c ∧ Text.shownChar c = x := by
  unfold message at h
  split at h
  · next c found => exact ⟨c, found, by simpa using h⟩
  · exact absurd h.symm (shown_ne_ended x context)

theorem found_of_message_ended (h : failure.message context = "unexpected end of " ++ context) :
    failure.found = none := by
  unfold message at h
  split at h
  · next c found => exact absurd h (shown_ne_ended (Text.shownChar c) context)
  · next found => exact found

theorem message_worded (failure : Failure) (context : Text) :
    (∃ x, failure.message context = "unexpected '" ++ x ++ "' in " ++ context) ∨
      failure.message context = "unexpected end of " ++ context := by
  unfold message
  split
  · next c _ => exact .inl ⟨Text.shownChar c, rfl⟩
  · exact .inr rfl

end Failure

theorem Construct.Rejects.pointsInto {source body : Text} {p : Placed} {k : Construct}
    {failure : Failure} (h : k.Rejects body failure) (hp : p ∈ place 0 (scan source))
    (lexeme : p.lexeme = .construct k body) :
    let offset := p.start + k.opener.byteLength + failure.byteOffset body
    (Position.ofOffset source offset).offsetIn source = offset ∧
      PointsInto source p k offset (failure.message k.bodyTitle) := by
  obtain ⟨before, after, same, start, stop⟩ := split_of_mem_place_scan hp
  obtain ⟨front, back, rfl, place, found⟩ := h.split
  rw [lexeme, Lexeme.text] at same stop
  intro offset
  have cut : source = (before ++ k.opener ++ front) ++ (back ++ k.closer ++ after) := by
    simp only [same, List.append_assoc]
  have upto : offset = (before ++ k.opener ++ front).byteLength := by
    simp only [offset, start, place, Text.byteLength_append]
  have until_stop : p.stop = offset + back.byteLength + k.closer.byteLength := by
    simp only [stop, upto, Text.byteLength_append]
    omega
  have closer_wide := Text.byteLength_pos k.closer_ne_nil
  refine ⟨?_, ⟨_, _, cut, upto.symm⟩, ⟨by omega, by omega⟩, failure.message_worded _, ?_, ?_⟩
  · rw [upto, cut, Position.offsetIn_ofOffset]
  · intro x worded
    obtain ⟨c, is_c, rfl⟩ := Failure.found_of_message_shown worded
    rw [is_c] at found
    refine ⟨c, ?_, fun d => Text.shownChar_inj⟩
    rw [upto, cut, Text.charAt?_append, List.append_assoc, List.head?_append, ← found]
    rfl
  · intro worded
    rw [Failure.found_of_message_ended worded] at found
    obtain rfl : back = [] := List.head?_eq_none_iff.1 found.symm
    have at_closer : p.stop = offset + k.closer.byteLength := until_stop
    refine ⟨at_closer.symm, ?_⟩
    rw [at_closer, upto, cut, List.nil_append, ← List.append_assoc, Text.bytes_between]

theorem not_unexpected_unclosed (k : Construct) :
    ¬("unexpected" : Text) <+: k.unclosedMessage := by
  cases k <;> decide +kernel

theorem not_unexpected_everyMessage {k : Construct} {attributes : List Attribute} {message : Text}
    (h : message ∈ everyMessage k attributes) : ¬("unexpected" : Text) <+: message := by
  intro starts
  rcases List.mem_append.1 h with missing | scope
  · obtain ⟨name, -, rfl⟩ := List.mem_map.1 missing
    rw [List.append_assoc, List.append_assoc] at starts
    exact absurd (prefix_of_prefix_append starts (by decide)) (by decide +kernel)
  · unfold scopeMessages at scope
    split at scope
    · split at scope
      · cases scope
      · obtain rfl := List.mem_singleton.1 scope
        rw [List.append_assoc, List.append_assoc] at starts
        exact absurd (prefix_of_prefix_append starts (by decide)) (by decide +kernel)
    · cases scope

theorem rejects_of_unexpected_directive {start offset : Nat} {body message : Text}
    (h : (offset, message) ∈ directiveProblems start body)
    (starts : ("unexpected" : Text) <+: message) :
    ∃ failure, Construct.directive.Rejects body failure := by
  unfold directiveProblems at h
  cases read : readDirective body with
  | error failure => exact ⟨failure, read⟩
  | ok d =>
    simp only [read] at h
    split at h
    · cases h
    · obtain ⟨-, rfl⟩ := Prod.mk.inj (List.mem_singleton.1 h)
      rw [List.append_assoc] at starts
      exact absurd (prefix_of_prefix_append starts (by decide)) (by decide +kernel)

theorem readTag_of_unexpected {start offset : Nat} {k : Construct} {body message : Text}
    (h : (offset, message) ∈ tagProblems saidMessages start k body)
    (starts : ("unexpected" : Text) <+: message) :
    ∃ failure, readTag body = .error failure := by
  unfold tagProblems at h
  cases read : readTag body with
  | error failure => exact ⟨failure, rfl⟩
  | ok attributes =>
    simp only [read] at h
    obtain ⟨m, said, same⟩ := List.mem_map.1 h
    obtain ⟨-, rfl⟩ := Prod.mk.inj same
    have every := (saidMessages_sublist k attributes).subset said
    exact absurd starts (not_unexpected_everyMessage every)

theorem Placed.rejected_of_unexpected {p : Placed} {offset : Nat} {message : Text}
    (h : (offset, message) ∈ p.problems saidMessages) (starts : ("unexpected" : Text) <+: message) :
    ∃ k, p.lexeme.Rejected k := by
  obtain ⟨start, l⟩ := p
  cases l with
  | markup run | angle mark => cases h
  | unclosed k =>
    obtain ⟨-, rfl⟩ := Prod.mk.inj (List.mem_singleton.1 h)
    exact absurd starts (not_unexpected_unclosed k)
  | construct k body =>
    cases k with
    | directive =>
      obtain ⟨failure, rejects⟩ := rejects_of_unexpected_directive h starts
      exact ⟨.directive, body, failure, rfl, rejects⟩
    | bundleMessage | bundleSet =>
      obtain ⟨failure, rejects⟩ := readTag_of_unexpected h starts
      exact ⟨_, body, failure, rfl, rejects⟩
    | _ => cases h

end JspEndpoint.Template

namespace JspEndpoint

open JspEndpoint.Template

theorem mem_problemsOf_recognize {source : Text} {problem : Problem} :
    problem ∈ problemsOf source (recognize source) ↔
      ∃ p ∈ place 0 (scan source), problem ∈ problemsOf source p.events := by
  have offsets := problems_recognize source
  simp only [problemsOf, ← List.map_filterMap, offsets, List.map_flatMap, List.mem_flatMap]

theorem problemsOf_rejected {source : Text} {p : Placed} {k : Construct}
    (hp : p ∈ place 0 (scan source)) (h : p.lexeme.Rejected k) :
    ∃ problem : Problem, problemsOf source p.events = [problem] ∧
      PointsInto source p k (problem.position.offsetIn source) problem.message := by
  obtain ⟨body, failure, lexeme, rejects⟩ := h
  obtain ⟨back, points⟩ := rejects.pointsInto hp lexeme
  let offset := p.start + k.opener.byteLength + failure.byteOffset body
  refine ⟨⟨Position.ofOffset source offset, failure.message k.bodyTitle⟩, ?_, ?_⟩
  · simp only [Placed.events, lexeme, rejects.constructEvents_eq]
    rfl
  · rw [back]
    exact points

/-- A problem with something unexpected is that of a body that cannot be read, and each such body has
one. Its position is that of the character which the message shows, or that of the end mark. -/
theorem rejected_bodies_located (source : Text) :
    (∀ problem ∈ problemsOf source (recognize source),
        ("unexpected" : Text) <+: problem.message →
          ∃ p ∈ place 0 (scan source), ∃ k, p.lexeme.Rejected k ∧
            problemsOf source p.events = [problem] ∧
            PointsInto source p k (problem.position.offsetIn source) problem.message) ∧
      ∀ p ∈ place 0 (scan source), ∀ k, p.lexeme.Rejected k →
        ∃ problem ∈ problemsOf source (recognize source), problemsOf source p.events = [problem] ∧
          PointsInto source p k (problem.position.offsetIn source) problem.message := by
  constructor
  · intro problem hproblem starts
    obtain ⟨p, hp, own⟩ := mem_problemsOf_recognize.1 hproblem
    have known := own
    rw [problemsOf, ← List.map_filterMap, problems_events] at known
    obtain ⟨⟨offset, message⟩, said, rfl⟩ := List.mem_map.1 known
    obtain ⟨k, rejected⟩ := Placed.rejected_of_unexpected said starts
    obtain ⟨only, is_only, points⟩ := problemsOf_rejected hp rejected
    rw [is_only, List.mem_singleton] at own
    rw [own]
    exact ⟨p, hp, k, rejected, is_only, points⟩
  · intro p hp k rejected
    obtain ⟨problem, is_only, points⟩ := problemsOf_rejected hp rejected
    have own : problem ∈ problemsOf source p.events := by simp [is_only]
    exact ⟨problem, mem_problemsOf_recognize.2 ⟨p, hp, own⟩, is_only, points⟩

theorem rejected_bodies_located_two :
    let source : Text := "ab\n<%@ page import=é %><fmt:message key>"
    let bare : Problem := ⟨⟨2, 16⟩, "unexpected '\\u\x7be9\x7d' in directive"⟩
    let tag : Placed := ⟨24, .construct .bundleMessage " key"⟩
    (bare ∈ problemsOf source (recognize source) ∧ ("unexpected" : Text) <+: bare.message ∧
        ∃ p ∈ place 0 (scan source), ∃ k, p.lexeme.Rejected k ∧
          problemsOf source p.events = [bare] ∧
          PointsInto source p k (bare.position.offsetIn source) bare.message) ∧
      tag ∈ place 0 (scan source) ∧ tag.lexeme.Rejected .bundleMessage ∧
        ∃ problem ∈ problemsOf source (recognize source),
          problemsOf source tag.events = [problem] ∧
          PointsInto source tag .bundleMessage (problem.position.offsetIn source)
            problem.message := by
  intro source bare tag
  have reported : bare ∈ problemsOf source (recognize source) := by decide +kernel
  have starts : ("unexpected" : Text) <+: bare.message := by decide +kernel
  have placed : tag ∈ place 0 (scan source) := by decide +kernel
  have refused : readTag " key" = .error ⟨4, none⟩ := by decide +kernel
  have rejected : tag.lexeme.Rejected .bundleMessage := ⟨_, _, rfl, refused⟩
  obtain ⟨first, second⟩ := rejected_bodies_located source
  exact ⟨⟨reported, starts, first bare reported starts⟩, placed, rejected,
    second tag placed .bundleMessage rejected⟩

end JspEndpoint
