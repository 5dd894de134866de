import JspEndpoint.Conversion
import JspEndpoint.Proofs.LexemeEvents
import Mathlib.Data.List.Basic
import Mathlib.Data.List.Flatten

/-!
When a page converts, and what is reported when it does not. The problems of a page are those of its
lexemes, one lexeme after the other; no lexeme changes what is said of another. Within a bundle tag
one problem can hide another: a scope is not looked at while a required attribute is missing.
-/

namespace JspEndpoint.Template

def directiveNames : List Text := ["page", "taglib", "include"]

/-- The first scope among the attributes, if there is one, is a scope that variables can have. -/
def ScopeKnown (attributes : List Attribute) : Prop :=
  ∀ scope, Attribute.find? attributes "scope" = some scope →
    Attribute.unquote scope ∈ variableScopes

/-- No attribute is missing that the tag cannot do without. -/
def Complete (k : Construct) (attributes : List Attribute) : Prop :=
  ∀ name ∈ k.requiredAttributes, (Attribute.find? attributes name).isSome

/-- Lexemes with which nothing is wrong. -/
def Lexeme.Accepted : Lexeme → Prop
  | unclosed _ => False
  | construct .directive body => ∃ d, readDirective body = .ok d ∧ d.name ∈ directiveNames
  | construct .bundleMessage body =>
    ∃ attributes, readTag body = .ok attributes ∧ (Attribute.find? attributes "key").isSome ∧
      (Attribute.find? attributes "var").isSome ∧ ScopeKnown attributes
  | construct .bundleSet body =>
    ∃ attributes, readTag body = .ok attributes ∧
      (Attribute.find? attributes "basename").isSome ∧ ScopeKnown attributes
  | _ => True

/-- Bundle tags that can be read, with an attribute missing and a scope that is not known. -/
def Lexeme.HidesScope : Lexeme → Prop
  | construct k body =>
    k.isBundleTag ∧
      ∃ attributes, readTag body = .ok attributes ∧ ¬Complete k attributes ∧ ¬ScopeKnown attributes
  | _ => False

/-- One message for each missing attribute, in the order in which the tag asks for them. -/
def missingMessages (k : Construct) (attributes : List Attribute) : List Text :=
  (k.requiredAttributes.filter fun name => (Attribute.find? attributes name).isNone).map fun name =>
    "missing required attribute '" ++ name ++ "' on " ++ k.title

def scopeMessages (k : Construct) (attributes : List Attribute) : List Text :=
  match Attribute.find? attributes "scope" with
  | some scope =>
    if variableScopes.contains (Attribute.unquote scope) then []
    else ["invalid scope " ++ scope ++ " on " ++ k.title]
  | none => []

/-- All that is wrong with the attributes of a tag. -/
def everyMessage (k : Construct) (attributes : List Attribute) : List Text :=
  missingMessages k attributes ++ scopeMessages k attributes

/-- What is said of the attributes of a tag. -/
def saidMessages (k : Construct) (attributes : List Attribute) : List Text :=
  if (missingMessages k attributes).isEmpty then scopeMessages k attributes
  else missingMessages k attributes

def directiveProblems (start : Nat) (body : Text) : List (Nat × Text) :=
  match readDirective body with
  | .error failure =>
    let bodyStart := start + Construct.directive.opener.byteLength
    [(bodyStart + failure.byteOffset body, failure.message "directive")]
  | .ok d =>
    if directiveNames.contains d.name then [] else [(start, "unknown directive '" ++ d.name ++ "'")]

/-- The problems of a bundle tag, given what is said of attributes. -/
def tagProblems (messages : Construct → List Attribute → List Text) (start : Nat) (k : Construct)
    (body : Text) : List (Nat × Text) :=
  match readTag body with
  | .error failure =>
    let bodyStart := start + k.opener.byteLength
    [(bodyStart + failure.byteOffset body, failure.message (k.title ++ " attributes"))]
  | .ok attributes => (messages k attributes).map (start, ·)

/-- The offsets and messages of one lexeme's problems. -/
def Placed.problems (messages : Construct → List Attribute → List Text) (p : Placed) :
    List (Nat × Text) :=
  match p.lexeme with
  | .unclosed k => [(p.start, k.unclosedMessage)]
  | .construct .directive body => directiveProblems p.start body
  | .construct .bundleMessage body => tagProblems messages p.start .bundleMessage body
  | .construct .bundleSet body => tagProblems messages p.start .bundleSet body
  | _ => []

theorem missingMessages_eq_nil {k : Construct} {attributes : List Attribute} :
    missingMessages k attributes = [] ↔ Complete k attributes := by
  simp [missingMessages, Complete, List.filter_eq_nil_iff, Option.isSome_iff_ne_none]

theorem scopeMessages_eq_nil {k : Construct} {attributes : List Attribute} :
    scopeMessages k attributes = [] ↔ ScopeKnown attributes := by
  unfold scopeMessages ScopeKnown
  cases Attribute.find? attributes "scope" <;> simp

theorem attributeProblems_eq (k : Construct) (attributes : List Attribute) :
    attributeProblems k attributes = saidMessages k attributes := by
  unfold attributeProblems saidMessages missingMessages scopeMessages
  cases k.requiredAttributes.filter fun name => (Attribute.find? attributes name).isNone with
  | nil => rfl
  | cons name rest => rfl

theorem saidMessages_eq_nil {k : Construct} {attributes : List Attribute} :
    saidMessages k attributes = [] ↔ Complete k attributes ∧ ScopeKnown attributes := by
  rw [← missingMessages_eq_nil, ← scopeMessages_eq_nil (k := k), saidMessages]
  cases missingMessages k attributes with
  | nil => simp
  | cons m rest => simp

theorem saidMessages_sublist (k : Construct) (attributes : List Attribute) :
    (saidMessages k attributes).Sublist (everyMessage k attributes) := by
  unfold saidMessages everyMessage
  split
  · exact List.sublist_append_right _ _
  · exact List.sublist_append_left _ _

theorem saidMessages_eq_everyMessage {k : Construct} {attributes : List Attribute} :
    saidMessages k attributes = everyMessage k attributes ↔
      Complete k attributes ∨ ScopeKnown attributes := by
  rw [← missingMessages_eq_nil, ← scopeMessages_eq_nil (k := k), saidMessages, everyMessage]
  cases missingMessages k attributes with
  | nil => simp
  | cons m rest => simp

theorem problems_cutBlind :
    CutBlind fun (found : List (Nat × Text)) (e : Event) => found ++ e.problem?.toList where
  ambiguity found _ _ := List.append_nil found
  markup found _ _ := by simp only [Event.problem?, Option.toList_none, List.append_nil]

theorem problems_recognize (source : Text) :
    (recognize source).filterMap Event.problem? =
      (place 0 (scan source)).flatMap fun p => p.events.filterMap Event.problem? := by
  rw [← List.filterMap_flatMap, List.filterMap_eq_flatMap_toList, List.filterMap_eq_flatMap_toList,
    List.flatMap_eq_foldl, List.flatMap_eq_foldl, problems_cutBlind.foldl_recognize]

theorem problems_pageAttributeEvents (start : Nat) (a : Attribute) :
    (pageAttributeEvents start a).filterMap Event.problem? = [] := by
  unfold pageAttributeEvents
  split
  · simp [List.filterMap_map, Function.comp_def, Event.problem?]
  · rfl

theorem directiveNames_contains {name : Text} :
    directiveNames.contains name ↔ name = "page" ∨ name = "taglib" ∨ name = "include" := by
  simp only [List.contains_iff_mem, directiveNames, List.mem_cons, List.not_mem_nil, or_false]

theorem problems_directiveEvents (start : Nat) (body : Text) :
    (directiveEvents start body).filterMap Event.problem? = directiveProblems start body := by
  unfold directiveEvents directiveProblems
  cases readDirective body with
  | error failure => rfl
  | ok d =>
    dsimp only
    by_cases page : d.name = ("page" : Text)
    · rw [if_pos page, if_pos (directiveNames_contains.2 (.inl page)), List.filterMap_flatMap]
      exact List.flatMap_eq_nil_iff.2 fun a _ => problems_pageAttributeEvents start a
    · by_cases other : d.name = ("taglib" : Text) ∨ d.name = ("include" : Text)
      · rw [if_neg page, if_pos other, if_pos (directiveNames_contains.2 (.inr other))]
        rfl
      · have unknown : ¬directiveNames.contains d.name := fun known =>
          (directiveNames_contains.1 known).elim page other
        rw [if_neg page, if_neg other, if_neg unknown]
        rfl

theorem problems_bundleTagEvents (start : Nat) (k : Construct) (body : Text) :
    (bundleTagEvents start k body).filterMap Event.problem? =
      tagProblems saidMessages start k body := by
  unfold bundleTagEvents tagProblems
  cases readTag body with
  | error failure => rfl
  | ok attributes =>
    dsimp only
    rw [attributeProblems_eq]
    cases saidMessages k attributes with
    | nil =>
      dsimp only
      split <;> rfl
    | cons m rest =>
      simp only [List.filterMap_map, Function.comp_def, Event.problem?]
      exact congrFun List.filterMap_eq_map _

theorem problems_events (p : Placed) :
    p.events.filterMap Event.problem? = p.problems saidMessages := by
  obtain ⟨start, l⟩ := p
  cases l with
  | markup run | angle mark | unclosed k => rfl
  | construct k body =>
    cases k with
    | directive => exact problems_directiveEvents start body
    | bundleMessage | bundleSet => exact problems_bundleTagEvents start _ body
    | _ => rfl

theorem directiveProblems_eq_nil {start : Nat} {body : Text} :
    directiveProblems start body = [] ↔ (Lexeme.construct .directive body).Accepted := by
  simp only [directiveProblems, Lexeme.Accepted]
  cases readDirective body with
  | error failure => simp
  | ok d => by_cases known : d.name ∈ directiveNames <;> simp [known]

theorem tagProblems_eq_nil {start : Nat} {k : Construct} {body : Text} :
    tagProblems saidMessages start k body = [] ↔
      ∃ attributes, readTag body = .ok attributes ∧ Complete k attributes ∧
        ScopeKnown attributes := by
  unfold tagProblems
  cases readTag body with
  | error failure => simp
  | ok attributes => simp [saidMessages_eq_nil]

theorem complete_bundleMessage {attributes : List Attribute} :
    Complete .bundleMessage attributes ↔
      (Attribute.find? attributes "key").isSome ∧ (Attribute.find? attributes "var").isSome := by
  simp only [Complete, Construct.requiredAttributes, List.forall_mem_cons, List.not_mem_nil,
    false_implies, implies_true, and_true]

theorem complete_bundleSet {attributes : List Attribute} :
    Complete .bundleSet attributes ↔ (Attribute.find? attributes "basename").isSome := by
  simp only [Complete, Construct.requiredAttributes, List.forall_mem_cons, List.not_mem_nil,
    false_implies, implies_true, and_true]

theorem Placed.problems_eq_nil {p : Placed} : p.problems saidMessages = [] ↔ p.lexeme.Accepted := by
  obtain ⟨start, l⟩ := p
  cases l with
  | markup run | angle mark => simp [problems, Lexeme.Accepted]
  | unclosed k => simp [problems, Lexeme.Accepted]
  | construct k body =>
    cases k with
    | directive => exact directiveProblems_eq_nil
    | bundleMessage =>
      simp only [problems, tagProblems_eq_nil, Lexeme.Accepted, complete_bundleMessage, and_assoc]
    | bundleSet => simp only [problems, tagProblems_eq_nil, Lexeme.Accepted, complete_bundleSet]
    | _ => simp [problems, Lexeme.Accepted]

theorem tagProblems_sublist (start : Nat) (k : Construct) (body : Text) :
    (tagProblems saidMessages start k body).Sublist (tagProblems everyMessage start k body) := by
  unfold tagProblems
  cases readTag body with
  | error failure => exact List.Sublist.refl _
  | ok attributes => exact (saidMessages_sublist k attributes).map _

theorem tagProblems_eq_iff {start : Nat} {k : Construct} {body : Text} :
    tagProblems saidMessages start k body = tagProblems everyMessage start k body ↔
      ¬∃ attributes, readTag body = .ok attributes ∧ ¬Complete k attributes ∧
        ¬ScopeKnown attributes := by
  unfold tagProblems
  cases readTag body with
  | error failure => simp
  | ok attributes =>
    have split :
        (saidMessages k attributes).map (start, ·) = (everyMessage k attributes).map (start, ·) ↔
          Complete k attributes ∨ ScopeKnown attributes := by
      rw [List.map_inj_right fun _ _ same => (Prod.mk.inj same).2, saidMessages_eq_everyMessage]
    simp [split, Classical.or_iff_not_imp_left]

theorem Placed.problems_sublist (p : Placed) :
    (p.problems saidMessages).Sublist (p.problems everyMessage) := by
  obtain ⟨start, l⟩ := p
  cases l with
  | markup run | angle mark | unclosed k => exact List.Sublist.refl _
  | construct k body =>
    cases k with
    | bundleMessage | bundleSet => exact tagProblems_sublist start _ body
    | _ => exact List.Sublist.refl _

theorem Placed.problems_eq_iff {p : Placed} :
    p.problems saidMessages = p.problems everyMessage ↔ ¬p.lexeme.HidesScope := by
  obtain ⟨start, l⟩ := p
  cases l with
  | markup run | angle mark | unclosed k => simp [problems, Lexeme.HidesScope]
  | construct k body =>
    cases k with
    | bundleMessage | bundleSet =>
      simp only [problems, tagProblems_eq_iff, Lexeme.HidesScope, Construct.isBundleTag, true_and]
    | _ => simp [problems, Lexeme.HidesScope, Construct.isBundleTag]

theorem forall_mem_place {P : Lexeme → Prop} (start : Nat) {lexemes : List Lexeme} :
    (∀ p ∈ place start lexemes, P p.lexeme) ↔ ∀ l ∈ lexemes, P l := by
  induction lexemes generalizing start with
  | nil => simp [place]
  | cons l rest ih => simp only [place, List.forall_mem_cons, ih]

end JspEndpoint.Template

namespace JspEndpoint

open JspEndpoint.Template
open JspEndpoint.Endpoint

theorem flatMap_eq_iff_of_sublist {α β : Type} {f g : α → List β} {xs : List α}
    (h : ∀ x ∈ xs, (f x).Sublist (g x)) :
    xs.flatMap f = xs.flatMap g ↔ ∀ x ∈ xs, f x = g x := by
  induction xs with
  | nil => simp
  | cons x rest ih =>
    obtain ⟨first, others⟩ := List.forall_mem_cons.1 h
    rw [List.flatMap_cons, List.flatMap_cons, List.forall_mem_cons, ← ih others]
    constructor
    · intro same
      have lengths := congrArg List.length same
      have front := first.length_le
      have back := (List.Sublist.flatMap_right rest others).length_le
      rw [List.length_append, List.length_append] at lengths
      exact List.append_inj same (by omega)
    · rintro ⟨front, back⟩
      rw [front, back]

/-- The problems of a template, lexeme by lexeme, given what is said of attributes. -/
def lexemeProblems (messages : Construct → List Attribute → List Text) (source : Text) :
    List Problem :=
  (place 0 (scan source)).flatMap fun p =>
    (p.problems messages).map fun (offset, message) => ⟨Position.ofOffset source offset, message⟩

theorem problemsOf_recognize (source : Text) :
    problemsOf source (recognize source) = lexemeProblems saidMessages source := by
  have offsets := problems_recognize source
  simp only [problems_events] at offsets
  rw [problemsOf, lexemeProblems, ← List.map_flatMap, ← offsets, List.map_filterMap]

theorem lexemeProblems_eq_nil {source : Text} :
    lexemeProblems saidMessages source = [] ↔ ∀ l ∈ scan source, l.Accepted := by
  simp only [lexemeProblems, List.flatMap_eq_nil_iff, List.map_eq_nil_iff, Placed.problems_eq_nil,
    forall_mem_place]

theorem lexemeProblems_eq_iff {source : Text} :
    lexemeProblems saidMessages source = lexemeProblems everyMessage source ↔
      ∀ l ∈ scan source, ¬l.HidesScope := by
  rw [lexemeProblems, lexemeProblems, flatMap_eq_iff_of_sublist fun p _ => p.problems_sublist.map _,
    ← forall_mem_place 0]
  refine forall₂_congr fun p _ => ?_
  rw [← Placed.problems_eq_iff]
  constructor
  · intro same
    -- the positions need not tell problems apart, their number does
    exact p.problems_sublist.eq_of_length (by simpa using congrArg List.length same)
  · intro same
    rw [same]

namespace Page

theorem convert_cases (p : Page) (source : Text) :
    (lexemeProblems saidMessages source = [] ∧
        p.convert (some source) = .ok (p.applyOptions source (p.assemble (recognize source)))) ∨
      (lexemeProblems saidMessages source ≠ [] ∧
        p.convert (some source) =
          .error (.problems p.sourcePath (lexemeProblems saidMessages source))) := by
  simp only [convert, ← problemsOf_recognize]
  split
  · next none_found => exact .inl ⟨none_found, rfl⟩
  · next some_found => exact .inr ⟨some_found, rfl⟩

/-- A page converts exactly when every lexeme is accepted. Otherwise the problems of its lexemes are
returned in source order. They are all problems there are, unless a tag hides its scope. -/
theorem convert_reports (p : Page) (source : Text) :
    ((∃ c, p.convert (some source) = .ok c) ↔ ∀ l ∈ scan source, l.Accepted) ∧
      (p.convert (some source) =
          .error (.problems p.sourcePath (lexemeProblems saidMessages source)) ↔
        ¬∀ l ∈ scan source, l.Accepted) ∧
      (p.convert (some source) =
          .error (.problems p.sourcePath (lexemeProblems everyMessage source)) ↔
        (¬∀ l ∈ scan source, l.Accepted) ∧ ∀ l ∈ scan source, ¬l.HidesScope) := by
  rw [← lexemeProblems_eq_nil, ← lexemeProblems_eq_iff]
  obtain ⟨found, made⟩ | ⟨found, made⟩ := convert_cases p source
  · simp [made, found]
  · simp [made, found]

/-- The scope `b` is not reported while the variable is missing. -/
theorem convert_hides_scope :
    let page : Page := ⟨"p.jsp", "", "/p.jsp", "P", ⟨false, false⟩⟩
    let source : Text := "<fmt:message key='a' scope='b'/>"
    page.convert (some source) =
        .error (.problems "p.jsp"
          [⟨⟨1, 0⟩, "missing required attribute 'var' on <fmt:message>"⟩]) ∧
      lexemeProblems everyMessage source =
        [⟨⟨1, 0⟩, "missing required attribute 'var' on <fmt:message>"⟩,
          ⟨⟨1, 0⟩, "invalid scope 'b' on <fmt:message>"⟩] ∧
      page.convert (some source) ≠
        .error (.problems page.sourcePath (lexemeProblems everyMessage source)) := by
  decide +kernel

end Page

end JspEndpoint
