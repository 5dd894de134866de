import JspEndpoint.Proofs.AssemblyInvariant
import JspEndpoint.Proofs.QuotedValues
import Mathlib.Data.List.Forall2

/-!
Imports and bundle steps of a converted page. They are read off its directives and bundle tags, one
lexeme after the other: what stands between the quotes of their attributes, the first attribute of a
name counting. A page that converts leaves no attribute out that a step needs, so no step is made of
a value that stands in for a missing one, except for the scope.
-/

namespace JspEndpoint.Template

def Lexeme.isBundleTag : Lexeme → Bool
  | construct k _ => k.isBundleTag
  | _ => false

/-- The names that stand between commas, blanks around them apart; a list may have empty places. -/
def namesIn (content : Text) : List Text :=
  ((List.splitOn ',' content).map Text.trim).filter (!·.isEmpty)

/-- The imports that a lexeme asks for. -/
def Lexeme.Imports : Lexeme → List Text → Prop
  | construct .directive body, names =>
    ∃ d, readDirective body = .ok d ∧
      ((d.name = "page" ∧ ∃ contents,
          List.Forall₂ (fun a content => QuotedAs a.value content)
            (d.attributes.filter (·.name = ("import" : Text))) contents ∧
          names = contents.flatMap namesIn) ∨
        (d.name ≠ "page" ∧ names = []))
  | construct .bundleSet _, names => names = ["java.util.ResourceBundle"]
  | _, names => names = []

end JspEndpoint.Template

namespace JspEndpoint.Endpoint

open JspEndpoint.Template

/-- The step that a bundle tag asks for, whether or not it declares the variable. -/
def StepOf : Lexeme → BundleStep → Prop
  | .construct .bundleMessage body, .lookup key var scope =>
    ∃ attributes, readTag body = .ok attributes ∧ FirstValue attributes "key" key ∧
      FirstValue attributes "var" var ∧
      scope ∈ (["page", "request", "session", "application"] : List Text) ∧
      (FirstValue attributes "scope" scope ∨
        (∀ a ∈ attributes, a.name ≠ "scope") ∧ scope = "page")
  | .construct .bundleSet body, .load basename _ =>
    ∃ attributes, readTag body = .ok attributes ∧ FirstValue attributes "basename" basename
  | _, _ => False

theorem importsOf_importNames (value : Text) :
    ((importNames value).map Event.importName).flatMap importsOf =
      namesIn (Attribute.unquote value) := by
  have same (quote : Char) (name : Text) :
      importsOf (.importName (quote :: name ++ [quote])) = [name] := by
    simp [importsOf, Attribute.unquote]
  simp only [importNames, List.flatMap_map, same, List.flatMap_singleton', namesIn,
    Text.splitOn_eq]

theorem importsOf_pageAttributeEvents (start : Nat) (a : Attribute) :
    (pageAttributeEvents start a).flatMap importsOf =
      if a.name = "import" then namesIn (Attribute.unquote a.value) else [] := by
  unfold pageAttributeEvents
  split
  · exact importsOf_importNames a.value
  · rfl

theorem Assembly.imports_addAll (a : Assembly) (events : List Event) :
    (a.addAll events).page.imports = a.page.imports ++ events.flatMap importsOf := by
  induction events generalizing a with
  | nil => exact (List.append_nil _).symm
  | cons e rest ih =>
    have first : (a.add e).page.imports = a.page.imports ++ importsOf e := by rw [add_eq]
    rw [List.flatMap_cons, ← List.append_assoc, ← first]
    exact ih (a.add e)

theorem bundleTagEvents_of_complete (start : Nat) {k : Construct} {body : Text}
    {attributes : List Attribute} (read : readTag body = .ok attributes)
    (complete : Complete k attributes) (scope : ScopeKnown attributes) :
    bundleTagEvents start k body =
      if k = .bundleMessage then [.bundleVariable attributes] else [.bundleSet attributes] := by
  have none_said := saidMessages_eq_nil.2 ⟨complete, scope⟩
  simp only [bundleTagEvents, read, attributeProblems_eq, none_said]

theorem events_bundleMessage (start : Nat) {body : Text} {attributes : List Attribute}
    (read : readTag body = .ok attributes) (key : (Attribute.find? attributes "key").isSome)
    (var : (Attribute.find? attributes "var").isSome) (scope : ScopeKnown attributes) :
    (Placed.mk start (.construct .bundleMessage body)).events = [.bundleVariable attributes] :=
  bundleTagEvents_of_complete start read (complete_bundleMessage.2 ⟨key, var⟩) scope

theorem events_bundleSet (start : Nat) {body : Text} {attributes : List Attribute}
    (read : readTag body = .ok attributes)
    (basename : (Attribute.find? attributes "basename").isSome) (scope : ScopeKnown attributes) :
    (Placed.mk start (.construct .bundleSet body)).events = [.bundleSet attributes] :=
  bundleTagEvents_of_complete start read (complete_bundleSet.2 basename) scope

theorem events_directive (start : Nat) {body : Text} {d : Directive}
    (read : readDirective body = .ok d) (known : d.name ∈ directiveNames) :
    (Placed.mk start (.construct .directive body)).events =
      if d.name = "page" then d.attributes.flatMap (pageAttributeEvents start) else [] := by
  simp only [Placed.events, constructEvents, directiveEvents, read]
  split
  · rfl
  · next other =>
    have names := directiveNames_contains.1 (List.contains_iff_mem.2 known)
    rw [if_pos (names.resolve_left other)]

theorem importsOf_pageEvents (start : Nat) (attributes : List Attribute) :
    (attributes.flatMap (pageAttributeEvents start)).flatMap importsOf =
      ((attributes.filter (·.name = ("import" : Text))).map fun a =>
        Attribute.unquote a.value).flatMap namesIn := by
  induction attributes with
  | nil => rfl
  | cons a rest ih =>
    rw [List.flatMap_cons, List.flatMap_append, ih, importsOf_pageAttributeEvents, List.filter_cons]
    by_cases named : a.name = ("import" : Text)
    · rw [if_pos named, if_pos (decide_eq_true named), List.map_cons, List.flatMap_cons]
    · rw [if_neg named, if_neg (mt of_decide_eq_true named), List.nil_append]

theorem imports_of_accepted {p : Placed} (h : p.lexeme.Accepted) :
    p.lexeme.Imports (p.events.flatMap importsOf) := by
  obtain ⟨start, l⟩ := p
  cases l with
  | markup run | angle mark => rfl
  | unclosed k => exact h.elim
  | construct k body =>
    cases k with
    | directive =>
      obtain ⟨d, read, known⟩ := h
      rw [events_directive start read known]
      refine ⟨d, read, ?_⟩
      by_cases page : d.name = "page"
      · rw [if_pos page, importsOf_pageEvents]
        refine .inl ⟨page, _, List.forall₂_map_right_iff.2 (List.forall₂_same.2 ?_), rfl⟩
        intro a ha
        obtain ⟨content, quoted⟩ := allQuoted_of_readDirective read a (List.mem_filter.1 ha).1
        rwa [quoted.unquote_eq]
      · rw [if_neg page]
        exact .inr ⟨page, rfl⟩
    | bundleMessage =>
      obtain ⟨attributes, read, key, var, scope⟩ := h
      rw [events_bundleMessage start read key var scope]
      rfl
    | bundleSet =>
      obtain ⟨attributes, read, basename, scope⟩ := h
      rw [events_bundleSet start read basename scope]
      rfl
    | _ => rfl

theorem firstValue_of_isSome {attributes : List Attribute} (h : AllQuoted attributes)
    {name : Text} (present : (Attribute.find? attributes name).isSome) :
    FirstValue attributes name ((valueOf? attributes name).getD []) := by
  obtain ⟨value, found⟩ := Option.isSome_iff_exists.1 present
  rw [valueOf?, found]
  exact h.firstValue found

theorem scope_cases {attributes : List Attribute} (h : AllQuoted attributes)
    (known : ScopeKnown attributes) :
    (valueOf? attributes "scope").getD "page" ∈ variableScopes ∧
      (FirstValue attributes "scope" ((valueOf? attributes "scope").getD "page") ∨
        (∀ a ∈ attributes, a.name ≠ "scope") ∧
          (valueOf? attributes "scope").getD "page" = "page") := by
  rw [valueOf?]
  cases found : Attribute.find? attributes "scope" with
  | none => exact ⟨List.mem_cons_self, .inr ⟨find?_eq_none_iff.1 found, rfl⟩⟩
  | some value => exact ⟨known value found, .inl (h.firstValue found)⟩

theorem step_of_accepted {p : Placed} (h : p.lexeme.Accepted) (tag : p.lexeme.isBundleTag)
    (a : Assembly) :
    ∃ step, StepOf p.lexeme step ∧
      (a.addAll p.events).page.scopeSetup = a.page.scopeSetup ++ [step] := by
  have grown (e : Event) : (a.addAll [e]).page.scopeSetup =
      a.page.scopeSetup ++ stepsOf (a.page.scopeSetup.any BundleStep.isLoad) e :=
    congrArg (·.page.scopeSetup) (a.add_eq e)
  obtain ⟨start, l⟩ := p
  cases l with
  | markup run | angle mark | unclosed k => cases tag
  | construct k body =>
    cases k with
    | bundleMessage =>
      obtain ⟨attributes, read, key, var, scope⟩ := h
      have quoted := allQuoted_of_readTag read
      rw [events_bundleMessage start read key var scope, grown]
      refine ⟨.lookup _ _ _, ⟨attributes, read, ?_⟩, rfl⟩
      exact ⟨firstValue_of_isSome quoted key, firstValue_of_isSome quoted var,
        scope_cases quoted scope⟩
    | bundleSet =>
      obtain ⟨attributes, read, basename, scope⟩ := h
      have quoted := allQuoted_of_readTag read
      rw [events_bundleSet start read basename scope, grown]
      exact ⟨.load _ _, ⟨attributes, read, firstValue_of_isSome quoted basename⟩, rfl⟩
    | _ => cases tag

theorem pageAttributeEvents_not_setup (start : Nat) (a : Attribute) :
    ∀ e ∈ pageAttributeEvents start a, ¬Channel.setup.takes e := by
  unfold pageAttributeEvents
  split <;> simp [Channel.takes]

theorem not_takes_setup {p : Placed} (h : p.lexeme.Accepted) (other : ¬p.lexeme.isBundleTag) :
    ∀ e ∈ p.events, ¬Channel.setup.takes e := by
  obtain ⟨start, l⟩ := p
  cases l with
  | markup run | angle mark | unclosed k => simp [Placed.events, Channel.takes]
  | construct k body =>
    cases k with
    | directive =>
      obtain ⟨d, read, known⟩ := h
      rw [events_directive start read known]
      intro e he
      split at he
      · obtain ⟨a, -, ha⟩ := List.mem_flatMap.1 he
        exact pageAttributeEvents_not_setup start a e ha
      · cases he
    | bundleMessage | bundleSet => exact absurd rfl other
    | _ => simp [Placed.events, constructEvents, Channel.takes]

theorem setup_of_not_isBundleTag {p : Placed} (h : p.lexeme.Accepted)
    (other : ¬p.lexeme.isBundleTag) (a : Assembly) :
    (a.addAll p.events).page.scopeSetup = a.page.scopeSetup := by
  have kept := (Channel.Agree.refl .setup a).addAll_filter p.events
  rwa [List.filter_eq_nil_iff.2 (not_takes_setup h other)] at kept

theorem forall₂_imports_place (start : Nat) {lexemes : List Lexeme}
    (h : ∀ l ∈ lexemes, l.Accepted) :
    List.Forall₂ Lexeme.Imports lexemes
      ((place start lexemes).map fun p => p.events.flatMap importsOf) := by
  induction lexemes generalizing start with
  | nil => exact .nil
  | cons l rest ih =>
    obtain ⟨first, later⟩ := List.forall_mem_cons.1 h
    exact .cons (imports_of_accepted (p := ⟨start, l⟩) first) (ih _ later)

theorem exists_steps_place (start : Nat) {lexemes : List Lexeme} (h : ∀ l ∈ lexemes, l.Accepted)
    (a : Assembly) :
    ∃ steps, List.Forall₂ StepOf (lexemes.filter Lexeme.isBundleTag) steps ∧
      (a.addAll ((place start lexemes).flatMap Placed.events)).page.scopeSetup =
        a.page.scopeSetup ++ steps := by
  induction lexemes generalizing start a with
  | nil => exact ⟨[], .nil, (List.append_nil _).symm⟩
  | cons l rest ih =>
    obtain ⟨first, later⟩ := List.forall_mem_cons.1 h
    let p : Placed := ⟨start, l⟩
    -- the steps after this lexeme are added to what it leaves
    obtain ⟨steps, made, grown⟩ := ih _ later (a.addAll p.events)
    rw [place, List.flatMap_cons, Assembly.addAll_append, grown]
    by_cases tag : l.isBundleTag
    · obtain ⟨step, own, one⟩ := step_of_accepted (p := p) first tag a
      rw [List.filter_cons_of_pos tag, one, List.append_assoc]
      exact ⟨step :: steps, .cons own made, rfl⟩
    · rw [List.filter_cons_of_neg tag, setup_of_not_isBundleTag (p := p) first tag]
      exact ⟨steps, made, rfl⟩

end JspEndpoint.Endpoint

namespace JspEndpoint.Page

open JspEndpoint.Template
open JspEndpoint.Endpoint

theorem accepted_of_convert {p : Page} {source : Text} {c : EndpointClass}
    (h : p.convert (some source) = .ok c) : ∀ l ∈ scan source, l.Accepted := by
  obtain ⟨none_found, -⟩ | ⟨-, failed⟩ := convert_cases p source
  · exact lexemeProblems_eq_nil.1 none_found
  · rw [failed] at h
    cases h

/-- The imports of a converted page are those of its lexemes, one after the other. Its bundle tags
make one step each, in their order, and the first that loads a bundle declares the variable. -/
theorem convert_wiring (p : Page) (source : Text) (c : EndpointClass)
    (h : p.convert (some source) = .ok c) :
    (∃ names, List.Forall₂ Lexeme.Imports (scan source) names ∧ c.imports = names.flatten) ∧
      List.Forall₂ StepOf ((scan source).filter Lexeme.isBundleTag) c.scopeSetup ∧
      DeclaresFirst c.scopeSetup := by
  have accepted := accepted_of_convert h
  have started := Assembly.Sound.start p.package p.className p.routePath p.sourcePath
  let empty := EndpointClass.new p.package p.className p.routePath p.sourcePath
  let told := (place 0 (scan source)).flatMap Placed.events
  have image : p.assemble (recognize source) = ((Assembly.start empty).addAll told).page :=
    congrArg Assembly.page (Assembly.add_cutBlind.foldl_recognize _ source)
  have imported := (Assembly.start empty).imports_addAll told
  obtain ⟨steps, made, grown⟩ := exists_steps_place 0 accepted (Assembly.start empty)
  obtain rfl := eq_of_convert h
  simp only [applyOptions, image]
  refine ⟨⟨_, forall₂_imports_place 0 accepted, ?_⟩, ?_, (started.addAll told).declares⟩
  · rw [imported, List.flatMap_assoc]
    rfl
  · rwa [grown]

theorem convert_wiring_mixed :
    let page : Page := ⟨"p.jsp", "", "/p.jsp", "P", ⟨false, false⟩⟩
    let source : Text :=
      "<%@ page import='a.B, ,a.B' session='x' import=\" c.D \" %><fmt:setBundle basename='m'/>" ++
        "<fmt:message key='k' var=\"v\" key='z'/><fmt:setBundle basename='n' scope='page'/>"
    ∃ c, page.convert (some source) = .ok c ∧
      (∃ names, List.Forall₂ Lexeme.Imports (scan source) names ∧ c.imports = names.flatten) ∧
      c.imports = ["a.B", "a.B", "c.D", "java.util.ResourceBundle", "java.util.ResourceBundle"] ∧
      c.scopeSetup = [.load "m" true, .lookup "k" "v" "page", .load "n" false] := by
  -- Empty places in a list of imports, an attribute that is given twice, a scope that is not given
  -- and a bundle that is loaded again.
  intro page source
  have ok : page.convert (some source) =
      .ok { EndpointClass.new "" "P" "/p.jsp" "p.jsp" with
        imports := ["a.B", "a.B", "c.D", "java.util.ResourceBundle", "java.util.ResourceBundle"]
        scopeSetup := [.load "m" true, .lookup "k" "v" "page", .load "n" false] } := by
    decide +kernel
  exact ⟨_, ok, (convert_wiring page source _ ok).1, rfl, rfl⟩

end JspEndpoint.Page
