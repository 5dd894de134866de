import JspEndpoint.Proofs.MarkupRuns

/-!
The events of a template, lexeme by lexeme. A segment of joined markup has one event for several
lexemes. A reading that does not see where markup is cut, and does not look at the signals of
markup, may walk the lexemes instead of the segments.
-/

namespace JspEndpoint.Template

/-- The events of one lexeme, its markup not joined with that of its neighbours. -/
def Placed.events (p : Placed) : List Event :=
  match p.lexeme with
  | .markup run => [.markup run]
  | .angle mark => [.markup mark]
  | .construct k body => constructEvents p.start k body
  | .unclosed k => [.problem p.start k.unclosedMessage]

/-- A reading of events, one after the other, that does not see where markup is cut. -/
structure CutBlind {σ : Type} (read : σ → Event → σ) : Prop where
  ambiguity : ∀ s offset message, read s (.ambiguity offset message) = s
  markup : ∀ s front t, read (read s (.markup front)) (.markup t) = read s (.markup (front ++ t))

namespace CutBlind

variable {σ : Type} {read : σ → Event → σ}

theorem foldl_ambiguities (h : CutBlind read) (s : σ) (start : Nat) (t : Text) :
    (ambiguities start t).foldl read s = s := by
  fun_induction ambiguities start t with
  | case1 => rfl
  | case2 start c t rest _ ih => rw [List.foldl_cons, h.ambiguity, ih]
  | case3 start c t rest _ ih => exact ih

theorem foldl_run (h : CutBlind read) (s : σ) (start : Nat) (t : Text) :
    (segmentEvents start (.run t)).foldl read s = read s (.markup t) := by
  rw [segmentEvents, List.foldl_append, h.foldl_ambiguities]
  rfl

theorem foldl_joinRun (h : CutBlind read) (s : σ) (start : Nat) (front : Text)
    (segs : List Segment) :
    (eventsFrom start (Segment.joinRun front segs)).foldl read s =
      (eventsFrom (start + front.byteLength) segs).foldl read (read s (.markup front)) := by
  unfold Segment.joinRun
  split
  · next t rest =>
    simp only [eventsFrom, List.foldl_append, h.foldl_run, h.markup, Segment.text,
      Text.byteLength_append, Nat.add_assoc]
  · simp only [eventsFrom, List.foldl_append, h.foldl_run, Segment.text]

theorem foldl_segments (h : CutBlind read) (s : σ) (start : Nat) (lexemes : List Lexeme) :
    (eventsFrom start (segments lexemes)).foldl read s =
      ((place start lexemes).flatMap Placed.events).foldl read s := by
  induction lexemes generalizing s start with
  | nil => rfl
  | cons l rest ih =>
    rw [place, List.flatMap_cons, List.foldl_append, ← ih]
    -- markup is joined to the segments of the rest, all else is a segment of its own
    cases l with
    | markup run => exact h.foldl_joinRun s start run (segments rest)
    | angle mark => exact h.foldl_joinRun s start mark (segments rest)
    | construct k body => exact List.foldl_append
    | unclosed k => exact List.foldl_append

theorem foldl_recognize (h : CutBlind read) (s : σ) (source : Text) :
    (recognize source).foldl read s =
      ((place 0 (scan source)).flatMap Placed.events).foldl read s := by
  rw [recognize_eq, h.foldl_segments]

end CutBlind

end JspEndpoint.Template
