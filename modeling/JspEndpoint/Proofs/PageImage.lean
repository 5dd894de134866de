import JspEndpoint.Proofs.ConversionProblems
import Mathlib.Data.List.Chain
import Mathlib.Data.List.TakeWhile

/-!
The class of a converted page is read off the lexemes of its template: code, header comments and
declarations are what the lexemes say one by one, in source order, with neighbouring markup merged.
A comment belongs to the code if a lexeme before it starts code. Imports and bundle steps are
outside this module.
-/

namespace JspEndpoint

namespace Text

theorem skipBlanks_eq_nil {t : Text} : skipBlanks t = [] ↔ ∀ c ∈ t, isBlank c := by
  rw [skipBlanks, List.dropWhile_eq_nil_iff]

theorem trim_eq_nil {t : Text} : trim t = [] ↔ ∀ c ∈ t, isBlank c := by
  rw [trim, List.reverse_eq_nil_iff, skipBlanks_eq_nil]
  constructor
  · intro blank
    -- what is left at the front is blank, so nothing is left
    have rest : skipBlanks t = [] := by
      by_contra ne
      have stays := List.head_dropWhile_not isBlank ne
      have goes := blank _ (List.mem_reverse.2 (List.head_mem ne))
      exact absurd goes (by simpa [skipBlanks] using stays)
    exact skipBlanks_eq_nil.1 rest
  · intro blank
    simp [skipBlanks_eq_nil.2 blank]

theorem trim_isEmpty (t : Text) : (trim t).isEmpty = !t.any fun c => !isBlank c := by
  rw [Bool.eq_iff_iff, List.isEmpty_iff, trim_eq_nil]
  simp

end Text

namespace Template

/-- Whether a lexeme is code: a comment after it belongs to the code too. -/
def Lexeme.startsCode : Lexeme → Bool
  | markup run => run.any fun c => !Text.isBlank c
  | angle mark => mark.any fun c => !Text.isBlank c
  | construct .scriptlet _ | construct .expression _ => true
  | _ => false

/-- Lexemes, each with those before it. -/
def withEarlier (earlier : List Lexeme) : List Lexeme → List (List Lexeme × Lexeme)
  | [] => []
  | l :: rest => (earlier, l) :: withEarlier (earlier ++ [l]) rest

theorem withEarlier_snoc (earlier lexemes : List Lexeme) (l : Lexeme) :
    withEarlier earlier (lexemes ++ [l]) =
      withEarlier earlier lexemes ++ [(earlier ++ lexemes, l)] := by
  induction lexemes generalizing earlier with
  | nil => simp [withEarlier]
  | cons first rest ih => simp [withEarlier, ih]

/-- Events that are no part of the page's text: they name imports and bundles, or only report. -/
def Event.isAside : Event → Bool
  | importName _ | bundleVariable _ | bundleSet _ | problem .. | ambiguity .. | context .. => true
  | comment _ | declaration _ | code _ | markup _ | expression _ => false

theorem pageAttributeEvents_isAside {start : Nat} {a : Attribute} :
    ∀ e ∈ pageAttributeEvents start a, e.isAside := by
  unfold pageAttributeEvents
  split <;> simp [Event.isAside]

theorem directiveEvents_isAside {start : Nat} {body : Text} :
    ∀ e ∈ directiveEvents start body, e.isAside := by
  unfold directiveEvents
  split
  · simp [Event.isAside]
  · split
    · intro e he
      obtain ⟨a, _, ha⟩ := List.mem_flatMap.1 he
      exact pageAttributeEvents_isAside e ha
    · split <;> simp [Event.isAside]

theorem bundleTagEvents_isAside {start : Nat} {k : Construct} {body : Text} :
    ∀ e ∈ bundleTagEvents start k body, e.isAside := by
  unfold bundleTagEvents
  split
  · simp [Event.isAside]
  · split
    · split <;> simp [Event.isAside]
    · simp [Event.isAside]

end Template

namespace Endpoint

open JspEndpoint.Template

/-- The Java comment made of the body of a page comment. -/
def blockComment (body : Text) : Text := Part.wrapComment (Text.trim body)

/-- What a lexeme adds to the code, given the lexemes before it. -/
def codePart? (earlier : List Lexeme) : Lexeme → Option Part
  | .markup run => some (.markup run)
  | .angle mark => some (.markup mark)
  | .construct .scriptlet body => some (.scriptlet (Code.substitute .intake .scriptlet body))
  | .construct .expression body => some (.expression body)
  | .construct .comment body =>
    if earlier.any Lexeme.startsCode then some (.comment (blockComment body)) else none
  | _ => none

/-- The comment that a lexeme adds in front of the class, given the lexemes before it. -/
def headerComment? (earlier : List Lexeme) : Lexeme → Option Text
  | .construct .comment body =>
    if earlier.any Lexeme.startsCode then none else some (blockComment body)
  | _ => none

def declaration? : Lexeme → Option Text
  | .construct .declaration body => some (Text.trim body)
  | _ => none

def codeParts (lexemes : List Lexeme) : List Part :=
  (withEarlier [] lexemes).filterMap fun (earlier, l) => codePart? earlier l

def headerComments (lexemes : List Lexeme) : List Text :=
  (withEarlier [] lexemes).filterMap fun (earlier, l) => headerComment? earlier l

theorem codeParts_snoc (seen : List Lexeme) (l : Lexeme) :
    codeParts (seen ++ [l]) = codeParts seen ++ (codePart? seen l).toList := by
  simp only [codeParts, withEarlier_snoc, List.filterMap_append, List.nil_append]
  cases h : codePart? seen l <;> simp [h]

theorem headerComments_snoc (seen : List Lexeme) (l : Lexeme) :
    headerComments (seen ++ [l]) = headerComments seen ++ (headerComment? seen l).toList := by
  simp only [headerComments, withEarlier_snoc, List.filterMap_append, List.nil_append]
  cases h : headerComment? seen l <;> simp [h]

/-- Puts markup in front of code, joined with markup that stands first. -/
def frontMarkup (content : Text) : List Part → List Part
  | .markup after :: rest => .markup (content ++ after) :: rest
  | rest => .markup content :: rest

/-- Merges every run of neighbouring markup into one part. -/
def mergeMarkup : List Part → List Part
  | [] => []
  | .markup content :: rest => frontMarkup content (mergeMarkup rest)
  | part :: rest => part :: mergeMarkup rest

/-- Puts one part at the end of code, markup joined with markup that stands last. -/
def appendPart (parts : List Part) : Part → List Part
  | .markup content => joinMarkup content parts
  | part => parts ++ [part]

/-- No two neighbours are both markup. -/
def Merged (parts : List Part) : Prop :=
  parts.IsChain fun a b => ¬(a.isMarkup ∧ b.isMarkup)

theorem joinMarkup_cons_cons (t : Text) (a b : Part) (rest : List Part) :
    joinMarkup t (a :: b :: rest) = a :: joinMarkup t (b :: rest) := by
  cases a <;> rfl

theorem joinMarkup_ne_nil (t : Text) (parts : List Part) : joinMarkup t parts ≠ [] := by
  fun_cases joinMarkup t parts <;> simp

theorem joinMarkup_joinMarkup (s t : Text) (parts : List Part) :
    joinMarkup t (joinMarkup s parts) = joinMarkup (s ++ t) parts := by
  induction parts with
  | nil => rfl
  | cons first rest ih =>
    cases rest with
    | nil => cases first <;> simp [joinMarkup]
    | cons second rest =>
      obtain ⟨b, more, joined⟩ := List.exists_cons_of_ne_nil (joinMarkup_ne_nil s (second :: rest))
      rw [joinMarkup_cons_cons, joinMarkup_cons_cons, ← ih, joined, joinMarkup_cons_cons]

theorem appendPart_frontMarkup (s : Text) (parts : List Part) (part : Part) :
    appendPart (frontMarkup s parts) part = frontMarkup s (appendPart parts part) := by
  cases parts with
  | nil => cases part <;> rfl
  | cons first rest =>
    cases first with
    | markup u =>
      cases rest with
      | nil => cases part <;> simp [frontMarkup, appendPart, joinMarkup]
      | cons second rest => cases part <;> simp [frontMarkup, appendPart, joinMarkup_cons_cons]
    | _ => cases part <;> rfl

theorem mergeMarkup_snoc (parts : List Part) (part : Part) :
    mergeMarkup (parts ++ [part]) = appendPart (mergeMarkup parts) part := by
  induction parts with
  | nil => cases part <;> rfl
  | cons first rest ih =>
    cases first with
    | markup s => simp [mergeMarkup, ih, appendPart_frontMarkup]
    | _ => cases part <;> simp [mergeMarkup, ih, appendPart, joinMarkup]

theorem frontMarkup_merged (s : Text) {parts : List Part} (h : Merged parts) :
    Merged (frontMarkup s parts) := by
  cases parts with
  | nil => exact List.isChain_singleton _
  | cons first rest =>
    cases first with
    | markup u =>
      cases rest with
      | nil => exact List.isChain_singleton _
      | cons second rest =>
        obtain ⟨apart, tail⟩ := List.isChain_cons_cons.1 h
        exact List.isChain_cons_cons.2 ⟨by simpa [Part.isMarkup] using apart, tail⟩
    | _ => exact List.isChain_cons_cons.2 ⟨by simp [Part.isMarkup], h⟩

theorem mergeMarkup_merged (parts : List Part) : Merged (mergeMarkup parts) := by
  induction parts with
  | nil => exact List.isChain_nil
  | cons first rest ih =>
    cases first with
    | markup s => exact frontMarkup_merged s ih
    | _ => exact List.isChain_cons.2 ⟨by simp [Part.isMarkup], ih⟩

theorem stripConstruct_raw (k : Construct) (body : Text) :
    stripConstruct k (k.opener ++ body ++ k.closer) = body := by
  have opened : Text.after? k.opener (k.opener ++ body ++ k.closer) = some (body ++ k.closer) := by
    rw [List.append_assoc, Text.after?_append]
  have closed : Text.before? k.closer (body ++ k.closer) = some body :=
    Text.before?_eq_some.2 rfl
  simp only [stripConstruct, stripMarks, opened, Option.getD_some, closed]

/-- What an assembly knows of the text of the page. -/
structure Body where
  codes : List Part
  comments : List Text
  declarations : List Text
  started : Bool
  deriving DecidableEq, Repr

namespace Body

def empty : Body := ⟨[], [], [], false⟩

/-- The body that lexemes say. -/
def ofLexemes (lexemes : List Lexeme) : Body where
  codes := mergeMarkup (codeParts lexemes)
  comments := headerComments lexemes
  declarations := lexemes.filterMap declaration?
  started := lexemes.any Lexeme.startsCode

/-- One lexeme more. Of the lexemes before it only the flag is needed. -/
def add (b : Body) : Lexeme → Body
  | .markup t | .angle t =>
    { b with
      codes := joinMarkup t b.codes
      started := b.started || t.any fun c => !Text.isBlank c }
  | .construct .scriptlet text =>
    { b with
      codes := b.codes ++ [.scriptlet (Code.substitute .intake .scriptlet text)]
      started := true }
  | .construct .expression text =>
    { b with codes := b.codes ++ [.expression text], started := true }
  | .construct .comment text =>
    if b.started then { b with codes := b.codes ++ [.comment (blockComment text)] }
    else { b with comments := b.comments ++ [blockComment text] }
  | .construct .declaration text =>
    { b with declarations := b.declarations ++ [Text.trim text] }
  | _ => b

theorem ofLexemes_snoc (seen : List Lexeme) (l : Lexeme) :
    ofLexemes (seen ++ [l]) = (ofLexemes seen).add l := by
  simp only [ofLexemes, codeParts_snoc, headerComments_snoc, List.filterMap_append, List.any_append]
  cases l with
  | markup run | angle mark =>
    simp [add, codePart?, headerComment?, declaration?, Lexeme.startsCode, mergeMarkup_snoc,
      appendPart]
  | unclosed k => simp [add, codePart?, headerComment?, declaration?, Lexeme.startsCode]
  | construct k text =>
    cases k with
    | comment =>
      cases started : seen.any Lexeme.startsCode <;>
        simp [add, codePart?, headerComment?, declaration?,
          Lexeme.startsCode, started, mergeMarkup_snoc, appendPart]
    | _ =>
      simp [add, codePart?, headerComment?, declaration?,
        Lexeme.startsCode, mergeMarkup_snoc, appendPart]

theorem ofLexemes_eq_foldl (lexemes : List Lexeme) :
    ofLexemes lexemes = lexemes.foldl add empty := by
  induction lexemes using List.reverseRecOn with
  | nil => rfl
  | append_singleton seen l ih => rw [ofLexemes_snoc, ih, List.foldl_append]; rfl

end Body

namespace Assembly

def body (a : Assembly) : Body where
  codes := a.page.codes
  comments := a.page.comments
  declarations := a.page.declarations
  started := a.codeStarted

theorem body_add_aside (a : Assembly) {e : Event} (h : e.isAside) : (a.add e).body = a.body := by
  cases e <;> first | rfl | simp [Event.isAside] at h

theorem body_addAll_aside (a : Assembly) {events : List Event} (h : ∀ e ∈ events, e.isAside) :
    (a.addAll events).body = a.body := by
  induction events generalizing a with
  | nil => rfl
  | cons e rest ih =>
    have first := body_add_aside a (h e List.mem_cons_self)
    rw [← first]
    exact ih (a.add e) fun x hx => h x (List.mem_cons_of_mem e hx)

theorem addAll_append (a : Assembly) (before after : List Event) :
    a.addAll (before ++ after) = (a.addAll before).addAll after :=
  List.foldl_append

theorem add_cutBlind : CutBlind add where
  ambiguity _ _ _ := rfl
  markup a s t := by
    simp [add, EndpointClass.addMarkup, joinMarkup_joinMarkup, Text.trim_isEmpty, Bool.or_assoc]

theorem body_addAll_events (a : Assembly) (p : Placed) :
    (a.addAll p.events).body = a.body.add p.lexeme := by
  obtain ⟨start, l⟩ := p
  cases l with
  | markup run | angle mark =>
    simp [Placed.events, addAll, add, body, Body.add, EndpointClass.addMarkup, Text.trim_isEmpty]
  | unclosed k => rfl
  | construct k text =>
    have raw := stripConstruct_raw k text
    cases k with
    | directive => exact body_addAll_aside a directiveEvents_isAside
    | bundleMessage | bundleSet => exact body_addAll_aside a bundleTagEvents_isAside
    | comment =>
      cases started : a.codeStarted <;>
        simp only [Placed.events, constructEvents, addAll, List.foldl_cons, List.foldl_nil, add, raw,
          started, body, Body.add, blockComment] <;> rfl
    | declaration | expression | scriptlet =>
      simp only [Placed.events, constructEvents, addAll, List.foldl_cons, List.foldl_nil, add, raw,
        body, Body.add]
      rfl

theorem body_addAll_lexemes (a : Assembly) (start : Nat) (lexemes : List Lexeme) :
    (a.addAll ((place start lexemes).flatMap Placed.events)).body =
      lexemes.foldl Body.add a.body := by
  induction lexemes generalizing a start with
  | nil => rfl
  | cons l rest ih =>
    rw [place, List.flatMap_cons, addAll_append, ih, body_addAll_events]
    rfl

end Assembly

end Endpoint

namespace Page

open JspEndpoint.Template
open JspEndpoint.Endpoint

theorem body_assemble (p : Page) (source : Text) :
    ((Assembly.start (EndpointClass.new p.package p.className p.routePath p.sourcePath)).addAll
      (recognize source)).body = Body.ofLexemes (scan source) := by
  rw [Assembly.addAll, Assembly.add_cutBlind.foldl_recognize, ← Assembly.addAll,
    Assembly.body_addAll_lexemes, Body.ofLexemes_eq_foldl]
  rfl

theorem eq_of_convert {p : Page} {source : Text} {c : EndpointClass}
    (h : p.convert (some source) = .ok c) :
    c = p.applyOptions source (p.assemble (recognize source)) := by
  obtain ⟨-, made⟩ | ⟨-, failed⟩ := convert_cases p source
  · rw [made] at h
    exact (Except.ok.inj h).symm
  · rw [failed] at h
    cases h

/-- The text of a converted page is the source-order image of its lexemes: the code with
neighbouring markup merged, the comments before any code, and the declarations. -/
theorem convert_image (p : Page) (source : Text) (c : EndpointClass)
    (h : p.convert (some source) = .ok c) :
    c.codes = mergeMarkup (codeParts (scan source)) ∧
      c.comments = headerComments (scan source) ∧
      c.declarations = (scan source).filterMap declaration? ∧
      Merged c.codes := by
  obtain ⟨codes, comments, declarations, -⟩ := Body.mk.inj (body_assemble p source)
  have made := eq_of_convert h
  have image : c.codes = mergeMarkup (codeParts (scan source)) := by
    rw [made]
    exact codes
  refine ⟨image, ?_, ?_, ?_⟩
  · rw [made]
    exact comments
  · rw [made]
    exact declarations
  · rw [image]
    exact mergeMarkup_merged _

theorem convert_image_mixed :
    let page : Page := ⟨"p.jsp", "", "/p.jsp", "P", ⟨false, false⟩⟩
    let source : Text := " <%--a--%><%@page import='b.C'%>\n<%! d; %><p><%-- e --%><% f %><%=g%>"
    ∃ c, page.convert (some source) = .ok c ∧
      c.codes = mergeMarkup (codeParts (scan source)) ∧
      c.codes = [.markup " \n<p>", .comment "/*\ne\n*/", .scriptlet " f ", .expression "g"] ∧
      c.comments = ["/*\na\n*/"] ∧ c.declarations = ["d;"] := by
  -- A header comment, a directive and a declaration stand between markup that is merged all the
  -- same; the comment after it is code.
  intro page source
  have ok : page.convert (some source) =
      .ok { EndpointClass.new "" "P" "/p.jsp" "p.jsp" with
        codes := [.markup " \n<p>", .comment "/*\ne\n*/", .scriptlet " f ", .expression "g"]
        comments := ["/*\na\n*/"]
        imports := ["b.C"]
        declarations := ["d;"] } := by
    decide +kernel
  exact ⟨_, ok, (convert_image page source _ ok).1, rfl, rfl, rfl⟩

end Page

end JspEndpoint
