import JspEndpoint.Proofs.AssemblyChannels

/-!
What holds of a class under assembly, whatever it is told. Markup is merged; the flag that code has
started can be read off the code, although blank and other markup are merged into one part; a
comment is never the first thing that the code says. One bundle declares the variable that the
others use, and no bundle lacks its import.
-/

namespace JspEndpoint.Endpoint

open JspEndpoint.Template

namespace Part

/-- Markup made of blanks, or of nothing. -/
def isBlank : Part → Bool
  | markup content => content.all Text.isBlank
  | _ => false

def isComment : Part → Bool
  | comment _ => true
  | _ => false

/-- The parts that may stand in the request method. -/
def isCode : Part → Bool
  | scriptlet _ | expression _ | markup _ | comment _ => true
  | importName _ | declaration _ | bundle _ => false

theorem isBlank_of_not_isMarkup {part : Part} (h : ¬part.isMarkup) : part.isBlank = false := by
  cases part with
  | markup content => exact absurd rfl h
  | _ => rfl

theorem isMarkup_of_isBlank {part : Part} (h : part.isBlank) : part.isMarkup := by
  by_contra other
  rw [isBlank_of_not_isMarkup other] at h
  cases h

end Part

/-- Whether the code says anything. -/
def saysCode (codes : List Part) : Bool := codes.any fun part => !part.isBlank

theorem joinMarkup_append (t : Text) (front : List Part) {parts : List Part} (ne : parts ≠ []) :
    joinMarkup t (front ++ parts) = front ++ joinMarkup t parts := by
  induction front with
  | nil => rfl
  | cons first rest ih =>
    obtain ⟨second, more, split⟩ :=
      List.exists_cons_of_ne_nil (List.append_ne_nil_of_right_ne_nil rest ne)
    rw [List.cons_append, split, joinMarkup_cons_cons, ← split, ih, List.cons_append]

/-- Code as events leave it. -/
structure CodeSound (codes : List Part) : Prop where
  merged : Merged codes
  kinds : ∀ part ∈ codes, part.isCode
  /-- The first part that says something is no comment. -/
  opening : ∀ part, codes.find? (!·.isBlank) = some part → ¬part.isComment

namespace CodeSound

variable {codes : List Part}

theorem nil : CodeSound [] := ⟨List.isChain_nil, by simp, by simp⟩

theorem push (h : CodeSound codes) (part : Part) (kind : part.isCode)
    (apart : ∀ last ∈ codes.getLast?, ¬(last.isMarkup ∧ part.isMarkup))
    (late : part.isComment → saysCode codes) : CodeSound (codes ++ [part]) := by
  refine ⟨List.isChain_append.2 ⟨h.merged, List.isChain_singleton _, ?_⟩, ?_, ?_⟩
  · intro last is_last next is_part
    obtain rfl : part = next := by simpa using is_part
    exact apart last is_last
  · intro other inside
    rcases List.mem_append.1 inside with before | here
    · exact h.kinds other before
    · rw [List.mem_singleton.1 here]
      exact kind
  · intro first found comment
    rw [List.find?_append] at found
    cases earlier : codes.find? (!·.isBlank) with
    | some other =>
      obtain rfl : other = first := by simpa [earlier] using found
      exact h.opening other earlier comment
    | none =>
      -- nothing is said before the new part, so it is no comment
      have silent : saysCode codes = false := by simpa [saysCode] using earlier
      obtain ⟨-, rfl⟩ : ¬part.isBlank ∧ part = first := by simpa [earlier] using found
      simp [late comment] at silent

theorem pop {part : Part} (h : CodeSound (codes ++ [part])) : CodeSound codes := by
  refine ⟨(List.isChain_append.1 h.merged).1, ?_, ?_⟩
  · intro other inside
    exact h.kinds other (List.mem_append_left _ inside)
  · intro first found
    exact h.opening first (by simp [found])

theorem join (h : CodeSound codes) (t : Text) : CodeSound (joinMarkup t codes) := by
  have silent : ∀ s, ¬Part.isComment (.markup s) := by simp [Part.isComment]
  obtain rfl | ⟨front, last, rfl⟩ := List.eq_nil_or_concat' codes
  · exact nil.push _ rfl (by simp) fun comment => absurd comment (silent t)
  · rw [joinMarkup_append t front (by simp)]
    cases last with
    | markup s =>
      have apart := (List.isChain_append.1 h.merged).2.2
      refine h.pop.push _ rfl ?_ fun comment => absurd comment (silent (s ++ t))
      intro before is_before both
      exact apart before is_before (.markup s) rfl both
    | _ =>
      have pushed := h.push (.markup t) rfl (by simp [Part.isMarkup])
        fun comment => absurd comment (silent t)
      simpa [joinMarkup] using pushed

theorem length_le_one (h : CodeSound codes) (silent : saysCode codes = false) :
    codes.length ≤ 1 := by
  match codes, h, silent with
  | [], _, _ => simp
  | [_], _, _ => simp
  | first :: second :: rest, h, silent =>
    obtain ⟨blank, blank', -⟩ : first.isBlank ∧ second.isBlank ∧ _ := by
      simpa [saysCode] using silent
    have apart := (List.isChain_cons_cons.1 h.merged).1
    exact absurd ⟨Part.isMarkup_of_isBlank blank, Part.isMarkup_of_isBlank blank'⟩ apart

end CodeSound

theorem saysCode_push (codes : List Part) {part : Part} (h : ¬part.isMarkup) :
    saysCode (codes ++ [part]) = true := by
  simp [saysCode, Part.isBlank_of_not_isMarkup h]

theorem saysCode_joinMarkup (codes : List Part) (t : Text) :
    saysCode (joinMarkup t codes) = (saysCode codes || t.any fun c => !Text.isBlank c) := by
  obtain rfl | ⟨front, last, rfl⟩ := List.eq_nil_or_concat' codes
  · simp [saysCode, joinMarkup, Part.isBlank, List.not_all_eq_any_not]
  · rw [joinMarkup_append t front (by simp)]
    cases last <;>
      simp [saysCode, joinMarkup, Part.isBlank, List.not_all_eq_any_not, Bool.or_assoc]

/-- A load declares the variable exactly when no load stands before it. -/
def DeclaresFirst (steps : List BundleStep) : Prop :=
  ∀ front basename declares back, steps = front ++ .load basename declares :: back →
    (declares = true ↔ ∀ step ∈ front, ¬step.isLoad)

theorem DeclaresFirst.push {steps : List BundleStep} {step : BundleStep} (h : DeclaresFirst steps)
    (last : ∀ basename declares, step = .load basename declares →
      (declares = true ↔ ∀ step ∈ steps, ¬step.isLoad)) : DeclaresFirst (steps ++ [step]) := by
  intro front basename declares back split
  obtain rfl | ⟨more, other, rfl⟩ := List.eq_nil_or_concat' back
  · obtain ⟨rfl, same⟩ := List.append_inj' split rfl
    exact last basename declares (List.singleton_inj.1 same)
  · have longer : steps ++ [step] = (front ++ .load basename declares :: more) ++ [other] := by
      simpa using split
    exact h front basename declares more (List.append_inj' longer rfl).1

/-- What holds of an assembly after any events. -/
structure Assembly.Sound (a : Assembly) : Prop extends CodeSound a.page.codes where
  started : a.codeStarted = saysCode a.page.codes
  declares : DeclaresFirst a.page.scopeSetup
  imported : a.page.scopeSetup.countP BundleStep.isLoad ≤
    a.page.imports.count EndpointClass.bundleImport
  rooted : ['/'] <+: a.page.routePath

namespace Assembly.Sound

variable {a : Assembly}

theorem start (package className route sourcePath : Text) :
    (Assembly.start (EndpointClass.new package className route sourcePath)).Sound where
  toCodeSound := CodeSound.nil
  started := rfl
  declares := by simp [DeclaresFirst, Assembly.start, EndpointClass.new]
  imported := by simp [Assembly.start, EndpointClass.new]
  rooted := by
    have slash : ['/'] <+: normalizeRoute route := by
      unfold normalizeRoute
      split
      · next given => exact Text.after?_isSome_iff.1 given
      · simp
    exact slash

theorem code_add (h : a.Sound) (e : Event) :
    CodeSound (a.add e).page.codes ∧ (a.add e).codeStarted = saysCode (a.add e).page.codes := by
  have code := h.toCodeSound
  have started := h.started
  rw [add_eq]
  cases e with
  | markup raw =>
    refine ⟨code.join raw, ?_⟩
    simp [started, partsOf, appendPart, saysCode_joinMarkup, Event.startsCode]
  | comment raw =>
    cases flag : a.codeStarted with
    | true =>
      have late : saysCode a.page.codes := by rw [← started, flag]
      refine ⟨code.push _ rfl (by simp [Part.isMarkup]) fun _ => late, ?_⟩
      exact (saysCode_push _ (by simp [Part.isMarkup])).symm
    | false => exact ⟨code, by simpa [partsOf, Event.startsCode, flag] using started⟩
  | code raw | expression raw =>
    refine ⟨code.push _ rfl (by simp [Part.isMarkup]) (by simp [Part.isComment]), ?_⟩
    simp [Event.startsCode, partsOf, appendPart, saysCode_push, Part.isMarkup]
  | _ => exact ⟨code, by simpa [partsOf, Event.startsCode] using started⟩

theorem declares_add (h : a.Sound) (e : Event) : DeclaresFirst (a.add e).page.scopeSetup := by
  rw [add_eq]
  cases e with
  | bundleVariable attributes =>
    refine h.declares.push ?_
    intro basename declares same
    cases same
  | bundleSet attributes =>
    refine h.declares.push ?_
    intro basename declares same
    obtain ⟨-, rfl⟩ := BundleStep.load.inj same
    simp
  | _ => simpa [stepsOf] using h.declares

theorem imported_add (h : a.Sound) (e : Event) :
    (a.add e).page.scopeSetup.countP BundleStep.isLoad ≤
      (a.add e).page.imports.count EndpointClass.bundleImport := by
  have imported := h.imported
  rw [add_eq]
  simp only [List.countP_append, List.count_append]
  cases e with
  | bundleSet attributes => simpa [stepsOf, importsOf, BundleStep.isLoad] using imported
  | _ => simp [stepsOf, importsOf, BundleStep.isLoad]; omega

theorem add (h : a.Sound) (e : Event) : (a.add e).Sound where
  toCodeSound := (h.code_add e).1
  started := (h.code_add e).2
  declares := h.declares_add e
  imported := h.imported_add e
  rooted := by
    rw [add_eq]
    exact h.rooted

theorem addAll (h : a.Sound) (events : List Event) : (a.addAll events).Sound := by
  induction events generalizing a with
  | nil => exact h
  | cons e rest ih => exact ih (h.add e)

end Assembly.Sound

/-- Whatever a new class is told, it is sound, and before code has started its code is at most one
part. -/
theorem Assembly.sound_of_events (package className route sourcePath : Text) (events : List Event) :
    let a := (start (EndpointClass.new package className route sourcePath)).addAll events
    a.Sound ∧ (a.codeStarted = false → a.page.codes.length ≤ 1) := by
  intro a
  have sound : a.Sound := (Sound.start package className route sourcePath).addAll events
  refine ⟨sound, fun early => sound.length_le_one ?_⟩
  rw [← sound.started, early]

/-- A comment between blank markup is no code, so the markup around it is one part. -/
example :
    let a := (Assembly.start (EndpointClass.new "" "P" "p.jsp" "p.jsp")).addAll
      [.markup "\n", .comment "<%-- a --%>", .markup " ", .code "<% x(); %>", .comment "<%--b--%>"]
    a.page.comments = ["/*\na\n*/"] ∧
      a.page.codes = [.markup "\n ", .scriptlet " x(); ", .comment "/*\nb\n*/"] := by
  decide +kernel

end JspEndpoint.Endpoint
