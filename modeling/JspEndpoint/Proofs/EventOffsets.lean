import JspEndpoint.Proofs.MarkupRuns

/-!
The offsets that events carry. They move with the place at which a segment starts and depend on
nothing else, and every one of them stands in front of a character of the segment it speaks of.
-/

namespace JspEndpoint.Template

namespace Event

/-- The offset of a problem or a signal. -/
def offset? : Event → Option Nat
  | problem offset _ | ambiguity offset _ | context offset _ => some offset
  | _ => none

def mapOffset (f : Nat → Nat) : Event → Event
  | problem offset message => problem (f offset) message
  | ambiguity offset message => ambiguity (f offset) message
  | context offset message => context (f offset) message
  | e => e

@[simp] theorem offset?_mapOffset (f : Nat → Nat) (e : Event) :
    (e.mapOffset f).offset? = e.offset?.map f := by
  cases e <;> rfl

@[simp] theorem mapOffset_mapOffset (f g : Nat → Nat) (e : Event) :
    (e.mapOffset g).mapOffset f = e.mapOffset (f ∘ g) := by
  cases e <;> rfl

end Event

theorem pageAttributeEvents_add (start bytes : Nat) (a : Attribute) :
    pageAttributeEvents (start + bytes) a =
      (pageAttributeEvents start a).map (Event.mapOffset (· + bytes)) := by
  unfold pageAttributeEvents
  split
  · simp [Event.mapOffset]
  · rfl

theorem directiveEvents_add (start bytes : Nat) (body : Text) :
    directiveEvents (start + bytes) body =
      (directiveEvents start body).map (Event.mapOffset (· + bytes)) := by
  unfold directiveEvents
  cases readDirective body with
  | error failure => simp [Event.mapOffset, Nat.add_right_comm]
  | ok d =>
    dsimp only
    split
    · rw [List.map_flatMap]
      exact congrArg d.attributes.flatMap (funext (pageAttributeEvents_add start bytes))
    · split <;> rfl

theorem bundleTagEvents_add (start bytes : Nat) (k : Construct) (body : Text) :
    bundleTagEvents (start + bytes) k body =
      (bundleTagEvents start k body).map (Event.mapOffset (· + bytes)) := by
  unfold bundleTagEvents
  cases readTag body with
  | error failure => simp [Event.mapOffset, Nat.add_right_comm]
  | ok attributes =>
    dsimp only
    split
    · split <;> rfl
    · simp [Event.mapOffset]

theorem constructEvents_add (start bytes : Nat) (k : Construct) (body : Text) :
    constructEvents (start + bytes) k body =
      (constructEvents start k body).map (Event.mapOffset (· + bytes)) := by
  cases k with
  | directive => exact directiveEvents_add start bytes body
  | bundleMessage | bundleSet => exact bundleTagEvents_add start bytes _ body
  | _ => rfl

theorem ambiguities_add (start bytes : Nat) (t : Text) :
    ambiguities (start + bytes) t =
      (ambiguities start t).map (Event.mapOffset (· + bytes)) := by
  induction t generalizing start with
  | nil => rfl
  | cons c t ih =>
    rw [ambiguities, ambiguities, Nat.add_right_comm, ih]
    split <;> rfl

theorem segmentEvents_add (start bytes : Nat) (s : Segment) :
    segmentEvents (start + bytes) s =
      (segmentEvents start s).map (Event.mapOffset (· + bytes)) := by
  cases s with
  | run t =>
    rw [segmentEvents, ambiguities_add, segmentEvents, List.map_append]
    rfl
  | construct k body => exact constructEvents_add start bytes k body
  | unclosed k => rfl

theorem eventsFrom_add (start bytes : Nat) (segs : List Segment) :
    eventsFrom (start + bytes) segs =
      (eventsFrom start segs).map (Event.mapOffset (· + bytes)) := by
  induction segs generalizing start with
  | nil => rfl
  | cons s rest ih =>
    rw [eventsFrom, segmentEvents_add, Nat.add_right_comm, ih, eventsFrom, List.map_append]

/-- If the event carries an offset, a character of the text stands there, the text starting at
`start`. -/
def Event.Within (start : Nat) (t : Text) (e : Event) : Prop :=
  ∀ offset, e.offset? = some offset →
    ∃ front back, t = front ++ back ∧ back ≠ [] ∧ offset = start + front.byteLength

namespace Event.Within

variable {start : Nat} {t : Text} {e : Event}

theorem of_offset?_eq_none (h : e.offset? = none) : e.Within start t := by
  intro offset found
  rw [h] at found
  cases found

theorem of_split {front back : Text} (h : e.offset? = some (start + front.byteLength))
    (ne : back ≠ []) : e.Within start (front ++ back) := by
  intro offset found
  rw [h] at found
  exact ⟨front, back, rfl, ne, (Option.some.inj found).symm⟩

theorem of_start (h : e.offset? = some start) (ne : t ≠ []) : e.Within start t := by
  have place : e.offset? = some (start + Text.byteLength []) := h
  exact of_split place ne

theorem bounds (h : e.Within start t) {offset : Nat} (found : e.offset? = some offset) :
    start ≤ offset ∧ offset < start + t.byteLength := by
  obtain ⟨front, back, rfl, ne, place⟩ := h offset found
  have wide := Text.byteLength_pos ne
  rw [Text.byteLength_append]
  omega

theorem append (h : e.Within start t) (rest : Text) : e.Within start (t ++ rest) := by
  intro offset found
  obtain ⟨front, back, rfl, ne, place⟩ := h offset found
  refine ⟨front, back ++ rest, List.append_assoc _ _ _, ?_, place⟩
  exact List.append_ne_nil_of_left_ne_nil ne rest

theorem prepend {before : Text} (h : e.Within (start + before.byteLength) t) :
    e.Within start (before ++ t) := by
  intro offset found
  obtain ⟨front, back, rfl, ne, place⟩ := h offset found
  refine ⟨before ++ front, back, (List.append_assoc _ _ _).symm, ne, ?_⟩
  rw [place, Text.byteLength_append, Nat.add_assoc]

end Event.Within

theorem Construct.closer_ne_nil (k : Construct) : k.closer ≠ [] := by
  cases k <;> simp [closer]

theorem Construct.text_ne_nil (k : Construct) (body : Text) :
    k.opener ++ body ++ k.closer ≠ [] :=
  List.append_ne_nil_of_right_ne_nil _ k.closer_ne_nil

theorem failure_within (start : Nat) (k : Construct) (body : Text) (failure : Failure)
    (message : Text) :
    (Event.problem (start + k.opener.byteLength + failure.byteOffset body) message).Within start
      (k.opener ++ body ++ k.closer) := by
  have split : k.opener ++ body ++ k.closer =
      (k.opener ++ body.take failure.index) ++ (body.drop failure.index ++ k.closer) := by
    rw [List.append_assoc k.opener (body.take _), ← List.append_assoc (body.take _),
      List.take_append_drop, ← List.append_assoc]
  rw [split]
  refine Event.Within.of_split ?_ (List.append_ne_nil_of_right_ne_nil _ k.closer_ne_nil)
  rw [Event.offset?, Failure.byteOffset, Text.byteOffset, Text.byteLength_append, Nat.add_assoc]

theorem pageAttributeEvents_within {start : Nat} {a : Attribute} {e : Event} {t : Text}
    (ne : t ≠ []) (h : e ∈ pageAttributeEvents start a) : e.Within start t := by
  unfold pageAttributeEvents at h
  split at h
  · obtain ⟨name, -, rfl⟩ := List.mem_map.1 h
    exact Event.Within.of_offset?_eq_none rfl
  · obtain rfl := List.mem_singleton.1 h
    exact Event.Within.of_start rfl ne

theorem directiveEvents_within {start : Nat} {body : Text} {e : Event}
    (h : e ∈ directiveEvents start body) :
    e.Within start (Construct.directive.opener ++ body ++ Construct.directive.closer) := by
  have ne := Construct.directive.text_ne_nil body
  unfold directiveEvents at h
  cases read : readDirective body with
  | error failure =>
    rw [read] at h
    obtain rfl := List.mem_singleton.1 h
    exact failure_within start .directive body failure _
  | ok d =>
    simp only [read] at h
    split at h
    · obtain ⟨a, -, ha⟩ := List.mem_flatMap.1 h
      exact pageAttributeEvents_within ne ha
    · split at h
      · cases h
      · obtain rfl := List.mem_singleton.1 h
        exact Event.Within.of_start rfl ne

theorem bundleTagEvents_within {start : Nat} {k : Construct} {body : Text} {e : Event}
    (h : e ∈ bundleTagEvents start k body) :
    e.Within start (k.opener ++ body ++ k.closer) := by
  have ne := k.text_ne_nil body
  unfold bundleTagEvents at h
  cases read : readTag body with
  | error failure =>
    rw [read] at h
    obtain rfl := List.mem_singleton.1 h
    exact failure_within start k body failure _
  | ok attributes =>
    simp only [read] at h
    split at h
    · split at h
      all_goals
        obtain rfl := List.mem_singleton.1 h
        exact Event.Within.of_offset?_eq_none rfl
    · obtain ⟨message, -, rfl⟩ := List.mem_map.1 h
      exact Event.Within.of_start rfl ne

theorem constructEvents_within {start : Nat} {k : Construct} {body : Text} {e : Event}
    (h : e ∈ constructEvents start k body) :
    e.Within start (k.opener ++ body ++ k.closer) := by
  cases k with
  | directive => exact directiveEvents_within h
  | bundleMessage | bundleSet => exact bundleTagEvents_within h
  | _ =>
    obtain rfl := List.mem_singleton.1 h
    exact Event.Within.of_offset?_eq_none rfl

theorem ambiguities_within {start : Nat} {t : Text} {e : Event} (h : e ∈ ambiguities start t) :
    e.Within start t := by
  induction t generalizing start with
  | nil => cases h
  | cons c t ih =>
    have later : e ∈ ambiguities (start + c.utf8Size) t → e.Within start (c :: t) := by
      intro he
      have inside : e.Within (start + Text.byteLength [c]) t := ih he
      exact inside.prepend
    rw [ambiguities] at h
    split at h
    · rcases List.mem_cons.1 h with rfl | he
      · exact Event.Within.of_start rfl (List.cons_ne_nil c t)
      · exact later he
    · exact later h

theorem segmentEvents_within {start : Nat} {s : Segment} {e : Event}
    (h : e ∈ segmentEvents start s) : e.Within start s.text := by
  cases s with
  | run t =>
    rcases List.mem_append.1 h with signal | markup
    · exact ambiguities_within signal
    · obtain rfl := List.mem_singleton.1 markup
      exact Event.Within.of_offset?_eq_none rfl
  | construct k body => exact constructEvents_within h
  | unclosed k =>
    obtain rfl := List.mem_singleton.1 h
    exact Event.Within.of_start rfl (Lexeme.opener_ne_nil k)

theorem eventsFrom_within {start : Nat} {segs : List Segment} {e : Event}
    (h : e ∈ eventsFrom start segs) : e.Within start (segs.flatMap Segment.text) := by
  induction segs generalizing start with
  | nil => cases h
  | cons s rest ih =>
    rw [List.flatMap_cons]
    rcases List.mem_append.1 h with own | later
    · exact (segmentEvents_within own).append _
    · exact (ih later).prepend

theorem recognize_within {source : Text} {e : Event} (h : e ∈ recognize source) :
    e.Within 0 source := by
  rw [recognize_eq] at h
  have within := eventsFrom_within h
  rwa [segments_text, scan_text] at within

end JspEndpoint.Template
