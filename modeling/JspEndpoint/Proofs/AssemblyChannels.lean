import JspEndpoint.Proofs.PageImage

/-!
The sequences of an endpoint class grow apart from each other. Each event adds to some of four
channels, and what it adds to one depends on that channel alone. So the class does not depend on how
events of different channels are mixed, nor on where markup is cut.
-/

namespace JspEndpoint.Template

/-- Whether an event is code: a comment after it belongs to the code too. -/
def Event.startsCode : Event → Bool
  | code _ | expression _ => true
  | markup raw => raw.any fun c => !Text.isBlank c
  | _ => false

end JspEndpoint.Template

namespace JspEndpoint.Endpoint

open JspEndpoint.Template

/-- The comments that an event adds in front of the class, given whether code has started. -/
def headersOf (started : Bool) : Event → List Text
  | .comment raw => if started then [] else [blockComment (stripConstruct .comment raw)]
  | _ => []

/-- The parts that an event adds to the code, given whether code has started. -/
def partsOf (started : Bool) : Event → List Part
  | .comment raw => if started then [.comment (blockComment (stripConstruct .comment raw))] else []
  | .code raw => [.scriptlet (Code.substitute .intake .scriptlet (stripConstruct .scriptlet raw))]
  | .markup raw => [.markup raw]
  | .expression raw => [.expression (stripConstruct .expression raw)]
  | _ => []

def importsOf : Event → List Text
  | .importName quoted => [Attribute.unquote quoted]
  | .bundleSet _ => [EndpointClass.bundleImport]
  | _ => []

def declarationsOf : Event → List Text
  | .declaration raw => [Text.trim (stripConstruct .declaration raw)]
  | _ => []

/-- The bundle steps that an event adds, given whether a bundle is loaded before it. -/
def stepsOf (loaded : Bool) : Event → List BundleStep
  | .bundleVariable attributes =>
    [.lookup ((valueOf? attributes "key").getD []) ((valueOf? attributes "var").getD [])
      ((valueOf? attributes "scope").getD "page")]
  | .bundleSet attributes => [.load ((valueOf? attributes "basename").getD []) !loaded]
  | _ => []

theorem Assembly.add_eq (a : Assembly) (e : Event) :
    a.add e =
      { page :=
          { a.page with
            comments := a.page.comments ++ headersOf a.codeStarted e
            imports := a.page.imports ++ importsOf e
            codes := (partsOf a.codeStarted e).foldl appendPart a.page.codes
            declarations := a.page.declarations ++ declarationsOf e
            scopeSetup :=
              a.page.scopeSetup ++ stepsOf (a.page.scopeSetup.any BundleStep.isLoad) e }
        codeStarted := a.codeStarted || e.startsCode } := by
  obtain ⟨page, started⟩ := a
  cases e with
  | comment raw =>
    cases started <;>
      simp [add, EndpointClass.addComment, EndpointClass.addCode, headersOf, partsOf, importsOf,
        declarationsOf, stepsOf, Event.startsCode, appendPart, blockComment]
  | markup raw =>
    simp [add, EndpointClass.addMarkup, headersOf, partsOf, importsOf, declarationsOf, stepsOf,
      Event.startsCode, appendPart, Text.trim_isEmpty]
  | _ =>
    simp [add, EndpointClass.addCode, EndpointClass.addDeclaration, EndpointClass.addImport,
      EndpointClass.addLookup, EndpointClass.addBundle, headersOf, partsOf, importsOf,
      declarationsOf, stepsOf, Event.startsCode, appendPart]

/-- What no event changes. -/
def EndpointClass.frame (c : EndpointClass) : EndpointClass :=
  { c with comments := [], imports := [], codes := [], declarations := [], scopeSetup := [] }

theorem Assembly.frame_addAll (a : Assembly) (events : List Event) :
    (a.addAll events).page.frame = a.page.frame := by
  induction events generalizing a with
  | nil => rfl
  | cons e rest ih =>
    have first : (a.add e).page.frame = a.page.frame := by rw [add_eq]; rfl
    exact (ih (a.add e)).trans first

/-- What events add to. -/
inductive Channel where
  /-- The code, and the header comments: the code decides which of the two a comment joins. -/
  | code
  | imports
  | setup
  | declarations
  deriving DecidableEq, Repr

namespace Channel

/-- Whether an event adds to the channel. A bundle adds to two, a problem or a signal to none. -/
def takes : Channel → Event → Bool
  | code, .comment _ | code, .code _ | code, .expression _ | code, .markup _ => true
  | imports, .importName _ | imports, .bundleSet _ => true
  | setup, .bundleVariable _ | setup, .bundleSet _ => true
  | declarations, .declaration _ => true
  | _, _ => false

/-- Two assemblies hold the same in the channel. -/
def Agree : Channel → Assembly → Assembly → Prop
  | code, a, b =>
    a.page.codes = b.page.codes ∧ a.page.comments = b.page.comments ∧ a.codeStarted = b.codeStarted
  | imports, a, b => a.page.imports = b.page.imports
  | setup, a, b => a.page.scopeSetup = b.page.scopeSetup
  | declarations, a, b => a.page.declarations = b.page.declarations

variable {ch : Channel} {a b : Assembly} {e : Event}

theorem Agree.refl (ch : Channel) (a : Assembly) : ch.Agree a a := by
  cases ch <;> simp [Agree]

theorem Agree.trans {c : Assembly} (h : ch.Agree a b) (h' : ch.Agree b c) : ch.Agree a c := by
  cases ch <;> simp_all [Agree]

theorem Agree.symm (h : ch.Agree a b) : ch.Agree b a := by
  cases ch <;> simp_all [Agree]

theorem Agree.add (h : ch.Agree a b) (e : Event) : ch.Agree (a.add e) (b.add e) := by
  rw [Assembly.add_eq, Assembly.add_eq]
  cases ch <;> simp_all [Agree]

theorem agree_add_of_not_takes (skipped : ¬ch.takes e) (a : Assembly) : ch.Agree (a.add e) a := by
  rw [Assembly.add_eq]
  cases ch with
  | code => cases e <;> simp_all [takes, Agree, partsOf, headersOf, Event.startsCode]
  | imports => cases e <;> simp_all [takes, Agree, importsOf]
  | setup => cases e <;> simp_all [takes, Agree, stepsOf]
  | declarations => cases e <;> simp_all [takes, Agree, declarationsOf]

theorem Agree.addAll_filter (h : ch.Agree a b) (events : List Event) :
    ch.Agree (a.addAll events) (b.addAll (events.filter ch.takes)) := by
  induction events generalizing a b with
  | nil => exact h
  | cons e rest ih =>
    by_cases taken : ch.takes e
    · rw [List.filter_cons_of_pos taken]
      exact ih (h.add e)
    · rw [List.filter_cons_of_neg taken]
      exact ih ((agree_add_of_not_takes taken a).trans h)

theorem eq_of_agree (h : ∀ ch : Channel, ch.Agree a b) (fixed : a.page.frame = b.page.frame) :
    a = b := by
  obtain ⟨codes, comments, started⟩ := h code
  have same_imports := h imports
  have same_setup := h setup
  have same_declarations := h declarations
  obtain ⟨⟨⟩, _⟩ := a
  obtain ⟨⟨⟩, _⟩ := b
  simp_all [Agree, EndpointClass.frame]

end Channel

namespace Assembly

theorem addAll_eq_of_filter_eq (a : Assembly) {events others : List Event}
    (h : ∀ ch : Channel, events.filter ch.takes = others.filter ch.takes) :
    a.addAll events = a.addAll others := by
  have fixed := (a.frame_addAll events).trans (a.frame_addAll others).symm
  refine Channel.eq_of_agree (fun ch => ?_) fixed
  -- what the channel does not take is left out on both sides
  have left := (Channel.Agree.refl ch a).addAll_filter events
  have right := (Channel.Agree.refl ch a).addAll_filter others
  rw [h ch] at left
  exact left.trans right.symm

theorem addAll_markup_swap (a : Assembly) (before after : List Event) {between : List Event}
    (other : ∀ e ∈ between, ¬Channel.code.takes e) (t : Text) :
    a.addAll (before ++ between ++ .markup t :: after) =
      a.addAll (before ++ .markup t :: between ++ after) := by
  refine a.addAll_eq_of_filter_eq fun ch => ?_
  cases ch with
  | code =>
    have none_taken : between.filter Channel.code.takes = [] := List.filter_eq_nil_iff.2 other
    simp [List.filter_append, List.filter_cons, none_taken]
  | imports | setup | declarations => simp [List.filter_append, Channel.takes]

theorem addAll_markup_markup (a : Assembly) (before after : List Event) (s t : Text) :
    a.addAll (before ++ .markup s :: .markup t :: after) =
      a.addAll (before ++ .markup (s ++ t) :: after) := by
  have joined := add_cutBlind.markup (a.addAll before) s t
  simp only [addAll, List.foldl_append, List.foldl_cons] at joined ⊢
  rw [joined]

/-- The class depends only on what each channel is told, in the order in which it is told. Markup
may be cut in two, and what is no code may stand in between. -/
theorem addAll_order_free (a : Assembly) :
    (∀ events others : List Event,
        (∀ ch : Channel, events.filter ch.takes = others.filter ch.takes) →
          a.addAll events = a.addAll others) ∧
      ∀ (before between after : List Event) (s t : Text),
        (∀ e ∈ between, ¬Channel.code.takes e) →
          a.addAll (before ++ .markup s :: between ++ .markup t :: after) =
              a.addAll (before ++ .markup (s ++ t) :: between ++ after) ∧
            a.addAll (before ++ .markup s :: between ++ .markup t :: after) =
              a.addAll (before ++ between ++ .markup (s ++ t) :: after) := by
  refine ⟨fun events others => a.addAll_eq_of_filter_eq, fun before between after s t other => ?_⟩
  have cut : a.addAll (before ++ .markup s :: between ++ .markup t :: after) =
      a.addAll (before ++ .markup (s ++ t) :: between ++ after) := by
    calc a.addAll (before ++ .markup s :: between ++ .markup t :: after)
        = a.addAll ((before ++ [.markup s]) ++ between ++ .markup t :: after) := by simp
      _ = a.addAll ((before ++ [.markup s]) ++ .markup t :: between ++ after) :=
          a.addAll_markup_swap _ after other t
      _ = a.addAll (before ++ .markup s :: .markup t :: (between ++ after)) := by simp
      _ = a.addAll (before ++ .markup (s ++ t) :: (between ++ after)) :=
          a.addAll_markup_markup before _ s t
      _ = a.addAll (before ++ .markup (s ++ t) :: between ++ after) := by simp
  exact ⟨cut, cut.trans (a.addAll_markup_swap before after other (s ++ t)).symm⟩

theorem addAll_order_free_mixed :
    let a := Assembly.start (EndpointClass.new "" "P" "p.jsp" "p.jsp")
    let bundle : Event := .bundleSet [⟨"basename", "'b'"⟩]
    let lookup : Event := .bundleVariable [⟨"key", "'k'"⟩, ⟨"var", "'v'"⟩]
    let imported : Event := .importName "'x.Y'"
    let member : Event := .declaration "<%! d; %>"
    let comment : Event := .comment "<%-- c --%>"
    (∀ ch : Channel,
        [lookup, bundle, .markup " <p>", comment, imported, member].filter ch.takes =
          [.markup " <p>", member, lookup, comment, bundle, imported].filter ch.takes) ∧
      a.addAll [lookup, bundle, .markup " <p>", comment, imported, member] =
        a.addAll [.markup " <p>", member, lookup, comment, bundle, imported] ∧
      a.addAll [.markup " <p>", member, lookup, comment, bundle, imported] =
        ⟨{ a.page with
            imports := ["java.util.ResourceBundle", "x.Y"]
            codes := [.markup " <p>", .comment "/*\nc\n*/"]
            declarations := ["d;"]
            scopeSetup := [.lookup "k" "v" "page", .load "b" true] }, true⟩ ∧
      (∀ e ∈ [lookup, bundle], ¬Channel.code.takes e) ∧
      a.addAll [.markup " ", lookup, bundle, .markup "<p>", comment] =
        a.addAll [lookup, bundle, .markup " <p>", comment] := by
  -- Two tellings of one page: all channels are mixed in another way, and the markup in front of a
  -- comment is told in two pieces, the first one blank.
  intro a bundle lookup imported member comment
  have told : ∀ ch : Channel,
      [lookup, bundle, .markup " <p>", comment, imported, member].filter ch.takes =
        [.markup " <p>", member, lookup, comment, bundle, imported].filter ch.takes := by
    intro ch
    cases ch <;> rfl
  have other : ∀ e ∈ [lookup, bundle], ¬Channel.code.takes e := by
    decide
  obtain ⟨mixed, cut⟩ := addAll_order_free a
  have joined := (cut [] [lookup, bundle] [comment] " " "<p>" other).2
  exact ⟨told, mixed _ _ told, by decide +kernel, other, joined⟩

end Assembly

end JspEndpoint.Endpoint
