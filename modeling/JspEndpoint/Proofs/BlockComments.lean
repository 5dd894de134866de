import JspEndpoint.Proofs.LiteralPatterns
import JspEndpoint.Proofs.PageImage
import Mathlib.Data.Bool.AllAny

/-!
Text of a page inside Java block comments. It gets there on two ways. The template quoted after the
class has its own comment marks replaced, one kind after the other, and no pass brings back what
another one removed; so the comment around it ends at its own end. A comment of the page is taken
as it stands, and a closing mark in it ends the Java comment there.
-/

namespace JspEndpoint

namespace Text

theorem exists_trim (t : Text) : ∃ front back, t = front ++ trim t ++ back ∧
    (∀ c ∈ front, isBlank c) ∧ ∀ c ∈ back, isBlank c := by
  let rest := (skipBlanks t).reverse
  refine ⟨t.takeWhile isBlank, (rest.takeWhile isBlank).reverse, ?_, ?_, ?_⟩
  · have back : (skipBlanks rest).reverse ++ (rest.takeWhile isBlank).reverse = skipBlanks t := by
      rw [← List.reverse_append, skipBlanks, List.takeWhile_append_dropWhile, List.reverse_reverse]
    rw [trim, List.append_assoc, back, skipBlanks, List.takeWhile_append_dropWhile]
  · exact List.all_eq_true.1 List.all_takeWhile
  · intro c inside
    exact List.all_eq_true.1 List.all_takeWhile c (List.mem_reverse.1 inside)

theorem infix_trim_iff {w t : Text} (ne : w ≠ []) (plain : ∀ c ∈ w, ¬isBlank c) :
    w <:+: trim t ↔ w <:+: t := by
  obtain ⟨front, back, split, front_blank, back_blank⟩ := exists_trim t
  have whole : w <:+: front ++ trim t ++ back ↔ w <:+: front ++ trim t :=
    infix_append_right_iff ne fun c blank inside => plain c inside (back_blank c blank)
  have inner : w <:+: front ++ trim t ↔ w <:+: trim t :=
    infix_append_left_iff ne fun c blank inside => plain c inside (front_blank c blank)
  rw [← inner, ← whole, ← split]

end Text

namespace Code

def commentOpener : Text := ['/', '*']

def commentCloser : Text := ['*', '/']

/-- One block comment and nothing else: after the opening mark, the first closing mark is the end of
the text. -/
def IsBlockComment (t : Text) : Prop :=
  ∃ inner, t = commentOpener ++ inner ++ commentCloser ∧
    ∀ front rest, inner ++ commentCloser = front ++ commentCloser ++ rest →
      inner.length ≤ front.length

theorem isBlockComment_iff {inner : Text} :
    IsBlockComment (commentOpener ++ inner ++ commentCloser) ↔ ¬commentCloser <:+: inner := by
  -- The closing mark does not overlap itself, so only what stands inside can end a comment early.
  constructor
  · rintro ⟨other, same, first⟩ ⟨front, rest, inside⟩
    obtain rfl : inner = other := by simpa [commentOpener] using same
    have early := first front (rest ++ commentCloser) (by rw [← inside]; simp)
    rw [← inside] at early
    simp only [List.length_append] at early
    have wide : 0 < commentCloser.length := by decide
    omega
  · intro free
    refine ⟨inner, rfl, fun front rest same => ?_⟩
    rcases List.append_eq_append_iff.1 same with ⟨shared, split, tail⟩ | ⟨more, split, -⟩
    · -- the occurrence ends inside the last mark, with its first `shared.length` characters
      match shared, tail with
      | [], _ =>
        rw [List.append_nil] at split
        exact absurd (split ▸ (List.suffix_append front commentCloser).isInfix) free
      | [c], tail =>
        obtain rfl : '*' = c := (List.cons.inj tail).1
        have last := congrArg List.getLast? split
        simp [commentCloser] at last
      | c :: d :: shared, tail =>
        have lengths := congrArg List.length split
        have two : commentCloser.length = 2 := rfl
        simp only [List.length_append, List.length_cons, two] at lengths
        omega
    · exact absurd (split ▸ ⟨front, more, rfl⟩) free

theorem substitute_sourceEcho (t : Text) : substitute .render .sourceEcho t =
    hideCloser.apply (hideOpener.apply (hideDocOpener.apply t)) :=
  rfl

theorem not_infix_sourceEcho (t : Text) :
    ¬commentOpener <:+: substitute .render .sourceEcho t ∧
      ¬commentCloser <:+: substitute .render .sourceEcho t := by
  rw [substitute_sourceEcho]
  constructor
  · intro held
    obtain ⟨before, -⟩ := infix_of_infix_replaceAll _ (by decide) (by decide) (by decide)
      (List.all_iff_forall_prop.1 (by decide)) held
    exact (infix_of_infix_replaceAll _ (by decide) (by decide) (by decide)
      (List.all_iff_forall_prop.1 (by decide)) before).2 rfl
  · intro held
    exact (infix_of_infix_replaceAll _ (by decide) (by decide) (by decide)
      (List.all_iff_forall_prop.1 (by decide)) held).2 rfl

theorem sourceEcho_of_not_infix {t : Text} (no_opener : ¬commentOpener <:+: t)
    (no_closer : ¬commentCloser <:+: t) : substitute .render .sourceEcho t = t := by
  have no_doc : ¬['/', '*', '*'] <:+: t := fun held =>
    no_opener (List.IsInfix.trans ⟨[], ['*'], rfl⟩ held)
  have doc : hideDocOpener.apply t = t := replaceAll_of_not_infix _ (by decide) no_doc
  have opener : hideOpener.apply t = t := replaceAll_of_not_infix _ (by decide) no_opener
  have closer : hideCloser.apply t = t := replaceAll_of_not_infix _ (by decide) no_closer
  rw [substitute_sourceEcho, doc, opener, closer]

end Code

namespace Endpoint

open JspEndpoint.Code

/-- What stands above the quoted template in its comment. -/
def echoTop : Text :=
  Text.lines ["/*", "Original JSP code as follows",
    "(block comments replaced by: \"START-COMMENT\" and \"END-COMMENT\"):", "---- ---- ----"]

def echoBottom : Text := "\n---- ---- ----\n*/"

theorem isBlockComment_echo {t : Text} (free : ¬commentCloser <:+: t) :
    IsBlockComment (echoTop ++ t ++ echoBottom) := by
  let top : Text := echoTop.drop 2
  let bottom : Text := "\n---- ---- ----\n"
  have frame : echoTop ++ t ++ echoBottom =
      commentOpener ++ (top ++ t ++ bottom) ++ commentCloser := by
    have split : echoBottom = bottom ++ commentCloser := rfl
    rw [split, ← List.append_assoc, List.append_assoc commentOpener]
    rfl
  have ne : commentCloser ≠ [] := by decide
  have above : ∀ c ∈ top, c ∉ commentCloser := List.all_iff_forall_prop.1 (by decide +kernel)
  have below : ∀ c ∈ bottom, c ∉ commentCloser := List.all_iff_forall_prop.1 (by decide +kernel)
  rw [frame, isBlockComment_iff, Text.infix_append_right_iff ne below,
    Text.infix_append_left_iff ne above]
  exact free

/-- The quoted template follows the class in one block comment that ends with the text. It is quoted
without comment marks, and as it stands if it has none. -/
theorem EndpointClass.render_echo_closed (c : EndpointClass) (source : Text) :
    let echo := substitute .render .sourceEcho source
    let comment := echoTop ++ echo ++ echoBottom
    { c with sourceText := some source }.render =
        { c with sourceText := none }.render ++ '\n' :: comment ∧
      IsBlockComment comment ∧ ¬commentOpener <:+: echo ∧ ¬commentCloser <:+: echo ∧
      (¬commentOpener <:+: source → ¬commentCloser <:+: source → echo = source) := by
  intro echo comment
  obtain ⟨no_opener, no_closer⟩ := not_infix_sourceEcho source
  exact ⟨rfl, isBlockComment_echo no_closer, no_opener, no_closer, sourceEcho_of_not_infix⟩

end Endpoint

/-- The body of a comment of the page. -/
def Template.Lexeme.hidden? : Template.Lexeme → Option Text
  | .construct .comment body => some body
  | _ => none

namespace Endpoint

open JspEndpoint.Code
open JspEndpoint.Template

def Part.comment? : Part → Option Text
  | comment text => some text
  | _ => none

/-- The comments of a class, those in front of it and those in its code. -/
def EndpointClass.commentNodes (c : EndpointClass) : List Text :=
  c.comments ++ c.codes.filterMap Part.comment?

theorem filterMap_comment?_joinMarkup (t : Text) (parts : List Part) :
    (joinMarkup t parts).filterMap Part.comment? = parts.filterMap Part.comment? := by
  fun_induction joinMarkup t parts with
  | case1 => rfl
  | case2 before => rfl
  | case3 part rest _ ih => rw [List.filterMap_cons, List.filterMap_cons, ih]

namespace Body

def commentNodes (b : Body) : List Text := b.comments ++ b.codes.filterMap Part.comment?

/-- Comments stand in the code only if code has started. -/
def CommentsLate (b : Body) : Prop := b.started = false → b.codes.filterMap Part.comment? = []

theorem CommentsLate.add {b : Body} (h : b.CommentsLate) (l : Lexeme) : (b.add l).CommentsLate := by
  intro fresh
  cases l with
  | markup t | angle t =>
    obtain ⟨before, -⟩ := Bool.or_eq_false_iff.1 fresh
    exact (filterMap_comment?_joinMarkup t b.codes).trans (h before)
  | unclosed k => exact h fresh
  | construct k body =>
    cases k with
    | scriptlet | expression => cases fresh
    | comment =>
      cases started : b.started with
      | false => simpa [Body.add, started] using h started
      | true => simp [Body.add, started] at fresh
    | _ => exact h fresh

theorem commentNodes_add {b : Body} (h : b.CommentsLate) (l : Lexeme) :
    (b.add l).commentNodes = b.commentNodes ++ (l.hidden?.map blockComment).toList := by
  cases l with
  | markup t | angle t =>
    simp [Body.add, commentNodes, Lexeme.hidden?, filterMap_comment?_joinMarkup]
  | unclosed k => simp [Body.add, Lexeme.hidden?]
  | construct k body =>
    cases k with
    | comment =>
      cases started : b.started with
      | false => simp [Body.add, started, commentNodes, Lexeme.hidden?, h started]
      | true => simp [Body.add, started, commentNodes, Lexeme.hidden?, Part.comment?]
    | scriptlet | expression => simp [Body.add, commentNodes, Lexeme.hidden?, Part.comment?]
    | _ => simp [Body.add, commentNodes, Lexeme.hidden?]

theorem commentNodes_foldl {b : Body} (h : b.CommentsLate) (lexemes : List Lexeme) :
    (lexemes.foldl add b).commentNodes =
      b.commentNodes ++ (lexemes.filterMap Lexeme.hidden?).map blockComment := by
  induction lexemes generalizing b with
  | nil => simp
  | cons l rest ih =>
    rw [List.foldl_cons, ih (h.add l), commentNodes_add h, List.append_assoc, List.filterMap_cons]
    cases l.hidden? <;> rfl

theorem commentNodes_ofLexemes (lexemes : List Lexeme) :
    (ofLexemes lexemes).commentNodes = (lexemes.filterMap Lexeme.hidden?).map blockComment := by
  have late : empty.CommentsLate := fun _ => rfl
  rw [ofLexemes_eq_foldl, commentNodes_foldl late]
  rfl

end Body

theorem isBlockComment_blockComment (body : Text) :
    IsBlockComment (blockComment body) ↔ ¬commentCloser <:+: body := by
  have ne : commentCloser ≠ [] := by decide
  have plain : ∀ c ∈ commentCloser, ¬Text.isBlank c := List.all_iff_forall_prop.1 (by decide)
  have wall : ∀ c ∈ (['\n'] : Text), c ∉ commentCloser := List.forall_mem_singleton.2 (by decide)
  have frame : blockComment body =
      commentOpener ++ (['\n'] ++ Text.trim body ++ ['\n']) ++ commentCloser := by
    simp [blockComment, Part.wrapComment, commentOpener, commentCloser]
  rw [frame, isBlockComment_iff, Text.infix_append_right_iff ne wall,
    Text.infix_append_left_iff ne wall, Text.infix_trim_iff ne plain]

end Endpoint

namespace Page

open JspEndpoint.Code
open JspEndpoint.Template
open JspEndpoint.Endpoint

/-- The comments of a converted page are those of its template, in order. Each is written as it
stands, and is one Java comment unless the closing mark stands in it. -/
theorem convert_comments (p : Page) (source : Text) (c : EndpointClass)
    (h : p.convert (some source) = .ok c) :
    c.commentNodes = ((scan source).filterMap Lexeme.hidden?).map blockComment ∧
      ∀ body ∈ (scan source).filterMap Lexeme.hidden?,
        (Part.comment (blockComment body)).render = blockComment body ++ ['\n'] ∧
          (IsBlockComment (blockComment body) ↔ ¬commentCloser <:+: body) := by
  constructor
  · have nodes := Body.commentNodes_ofLexemes (scan source)
    rw [← body_assemble p] at nodes
    rw [eq_of_convert h]
    exact nodes
  · intro body _
    exact ⟨rfl, isBlockComment_blockComment body⟩

theorem convert_comments_overlapping :
    let page : Page := ⟨"p.jsp", "", "/p.jsp", "P", ⟨false, false⟩⟩
    let source : Text := "<%-- /*/**--%>x<%--* /--%>"
    ∃ c, page.convert (some source) = .ok c ∧
      c.commentNodes = ["/*\n/*/**\n*/", "/*\n* /\n*/"] ∧
      ¬IsBlockComment "/*\n/*/**\n*/" ∧ IsBlockComment "/*\n* /\n*/" := by
  -- The closing mark stands in the header comment, across two opening ones, and not in the comment
  -- of the code.
  intro page source
  have ok : page.convert (some source) =
      .ok { EndpointClass.new "" "P" "/p.jsp" "p.jsp" with
        codes := [.markup "x", .comment "/*\n* /\n*/"]
        comments := ["/*\n/*/**\n*/"] } := by
    decide +kernel
  have hidden : (scan source).filterMap Lexeme.hidden? = [" /*/**", "* /"] := by decide +kernel
  obtain ⟨nodes, closed⟩ := convert_comments page source _ ok
  rw [hidden] at nodes closed
  have early := (closed " /*/**" (by simp)).2
  have whole := (closed "* /" (by simp)).2
  exact ⟨_, ok, nodes, mt early.1 (by decide), whole.2 (by decide)⟩

/-- The first comment of the class ends in the middle of the text that was hidden in the page. -/
theorem convert_comment_ends_early :
    let page : Page := ⟨"p.jsp", "", "/p.jsp", "P", ⟨false, false⟩⟩
    let source : Text := "<%-- a */ b --%>"
    ∃ c, page.convert (some source) = .ok c ∧ c.commentNodes = ["/*\na */ b\n*/"] ∧
      ¬IsBlockComment "/*\na */ b\n*/" := by
  intro page source
  have ok : page.convert (some source) =
      .ok { EndpointClass.new "" "P" "/p.jsp" "p.jsp" with comments := ["/*\na */ b\n*/"] } := by
    decide +kernel
  have held : commentCloser <:+: (" a */ b " : Text) := by decide
  exact ⟨_, ok, rfl, fun closed => (isBlockComment_blockComment " a */ b ").1 closed held⟩

end Page

end JspEndpoint
