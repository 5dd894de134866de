import JspEndpoint.Proofs.AttributeGrammar
import JspEndpoint.Proofs.RejectedBodies
import Mathlib.Tactic.SplitIfs

/-!
The report on a page that does not convert, line by line. After its title it has the lines of each
problem, and a problem has one line if its message holds no line break. Messages are made of fixed
texts and of names, which cannot hold one, and of a character that could not be read, which is
escaped. A scope is repeated as it stands in the template, and values may span lines: a report is
longer than it has problems exactly if a line break stands in a scope that is found to be unknown.
-/

namespace JspEndpoint.Text

theorem splitOn_of_not_mem {separator : Char} {t : Text} (h : separator ∉ t) :
    splitOn separator t = [t] := by
  rw [splitOn_eq, List.splitOn_eq_singleton h]

theorem splitOn_append_cons (separator : Char) (s t : Text) :
    splitOn separator (s ++ separator :: t) = splitOn separator s ++ splitOn separator t := by
  rw [splitOn_eq, splitOn_eq, splitOn_eq, List.splitOn_append_cons_self]

theorem splitOn_intercalate {separator : Char} {pieces : List Text} (ne : pieces ≠ []) :
    splitOn separator ([separator].intercalate pieces) = pieces.flatMap (splitOn separator) := by
  induction pieces with
  | nil => exact absurd rfl ne
  | cons first rest ih =>
    cases rest with
    | nil => simp
    | cons second rest =>
      rw [List.intercalate_cons_cons, List.append_assoc, List.singleton_append,
        splitOn_append_cons, ih (List.cons_ne_nil _ _)]
      exact List.flatMap_cons.symm

theorem length_splitOn (separator : Char) (t : Text) :
    (splitOn separator t).length = 1 + t.count separator := by
  induction t with
  | nil => rfl
  | cons c t ih =>
    rw [splitOn]
    split_ifs with same
    · subst same
      rw [List.length_cons, ih, List.count_cons_self, Nat.add_assoc]
    · rw [List.count_cons_of_ne same, ← ih]
      cases cut : splitOn separator t with
      | nil =>
        rw [cut, List.length_nil] at ih
        omega
      | cons piece pieces => rfl

theorem not_mem_toDigits {c : Char} (other : ∀ n, Nat.digitChar n ≠ c) {b : Nat} (large : 1 < b)
    (n : Nat) : c ∉ Nat.toDigits b n := by
  induction n using Nat.strongRecOn with
  | ind n ih =>
    by_cases small : n < b
    · rw [Nat.toDigits_of_lt_base small]
      simpa using (other n).symm
    · have front := ih (n / b) (Nat.div_lt_self (by omega) large)
      rw [Nat.toDigits_of_base_le large (Nat.le_of_not_lt small)]
      simpa [front] using (other _).symm

theorem break_not_mem_toDigits {b : Nat} (large : 1 < b) (n : Nat) : '\n' ∉ Nat.toDigits b n :=
  not_mem_toDigits (fun _ => Nat.digitChar_ne '\n' rfl) large n

theorem break_not_mem_shownChar (c : Char) : '\n' ∉ shownChar c := by
  unfold shownChar
  split_ifs with tab back feed marked printable
  · decide
  · decide
  · decide
  · simp [Ne.symm feed]
  · simp [Ne.symm feed]
  · have code := break_not_mem_toDigits (by decide : 1 < 16) c.toNat
    simp [escapeCode, hex_one, code]

end JspEndpoint.Text

namespace JspEndpoint.Template

open JspEndpoint.Text

theorem break_not_mem_unclosedMessage (k : Construct) : '\n' ∉ k.unclosedMessage := by
  cases k <;> decide

theorem break_not_mem_title (k : Construct) : '\n' ∉ k.title := by
  cases k <;> decide

theorem break_not_mem_failure {context : Text} (plain : '\n' ∉ context) (failure : Failure) :
    '\n' ∉ failure.message context := by
  unfold Failure.message
  cases failure.found with
  | none => simp [plain]
  | some c => simp [plain, break_not_mem_shownChar]

theorem isIdentifier_of_readDirective {body : Text} {d : Directive}
    (read : readDirective body = .ok d) : IsIdentifier d.name := by
  rcases directive_cases body with ⟨w, rfl, -⟩ | ⟨front, far, -, -, -, rejected⟩
  · rw [readDirective_written w] at read
    cases read
    exact w.isIdentifier
  · rw [rejected] at read
    cases read

theorem break_not_mem_identifier {name : Text} (h : IsIdentifier name) : '\n' ∉ name := by
  obtain ⟨c, rest, rfl, first, later⟩ := h
  intro mem
  rcases List.mem_cons.1 mem with rfl | late
  · cases first
  · cases later _ late

/-- Nothing is missing, and the message repeats an unknown scope that spans lines. -/
def BrokenScope (k : Construct) (attributes : List Attribute) (message : Text) : Prop :=
  Complete k attributes ∧ ∃ scope, Attribute.find? attributes "scope" = some scope ∧
    Attribute.unquote scope ∉ variableScopes ∧ '\n' ∈ scope ∧
    message = "invalid scope " ++ scope ++ " on " ++ k.title

/-- Bundle tags of which the message is said, if it spans lines. -/
def Lexeme.BreaksReport (message : Text) : Lexeme → Prop
  | construct k body =>
    k.isBundleTag ∧ ∃ attributes, readTag body = .ok attributes ∧ BrokenScope k attributes message
  | _ => False

theorem break_mem_saidMessages {k : Construct} {attributes : List Attribute} {message : Text}
    (plain : ∀ name ∈ k.requiredAttributes, '\n' ∉ name) :
    message ∈ saidMessages k attributes ∧ '\n' ∈ message ↔ BrokenScope k attributes message := by
  have title := break_not_mem_title k
  rw [BrokenScope, ← missingMessages_eq_nil, saidMessages]
  by_cases complete : missingMessages k attributes = []
  · rw [complete, List.isEmpty_nil, if_pos rfl, scopeMessages]
    cases Attribute.find? attributes "scope" with
    | none => simp
    | some scope =>
      have repeated : '\n' ∈ "invalid scope " ++ scope ++ " on " ++ k.title ↔ '\n' ∈ scope := by
        simp [title]
      dsimp only
      split_ifs with known
      · have listed : Attribute.unquote scope ∈ variableScopes := List.contains_iff_mem.1 known
        simp [listed]
      · have unlisted : Attribute.unquote scope ∉ variableScopes := fun mem =>
          known (List.contains_iff_mem.2 mem)
        rw [List.mem_singleton]
        constructor
        · rintro ⟨rfl, broken⟩
          exact ⟨rfl, scope, rfl, unlisted, repeated.1 broken, rfl⟩
        · rintro ⟨-, _, ⟨⟩, -, broken, rfl⟩
          exact ⟨rfl, repeated.2 broken⟩
  · have missing : message ∈ missingMessages k attributes → '\n' ∉ message := by
      intro mem
      obtain ⟨name, required, rfl⟩ := List.mem_map.1 mem
      simp [plain name (List.mem_filter.1 required).1, title]
    rw [if_neg (by simpa using complete)]
    simpa [complete] using missing

theorem break_mem_tagProblems {start offset : Nat} {k : Construct} {body message : Text}
    (plain : ∀ name ∈ k.requiredAttributes, '\n' ∉ name) :
    (offset, message) ∈ tagProblems saidMessages start k body ∧ '\n' ∈ message ↔
      offset = start ∧ ∃ attributes, readTag body = .ok attributes ∧
        BrokenScope k attributes message := by
  unfold tagProblems
  cases readTag body with
  | error failure =>
    have titled : '\n' ∉ k.title ++ " attributes" := by simp [break_not_mem_title]
    have unbroken := break_not_mem_failure titled failure
    constructor
    · rintro ⟨mem, broken⟩
      obtain ⟨-, rfl⟩ := Prod.mk.inj (List.mem_singleton.1 mem)
      exact absurd broken unbroken
    · rintro ⟨-, _, ⟨⟩, -⟩
  | ok attributes =>
    constructor
    · rintro ⟨mem, broken⟩
      obtain ⟨_, among, ⟨⟩⟩ := List.mem_map.1 mem
      exact ⟨rfl, attributes, rfl, (break_mem_saidMessages plain).1 ⟨among, broken⟩⟩
    · rintro ⟨rfl, _, ⟨⟩, scope⟩
      obtain ⟨among, broken⟩ := (break_mem_saidMessages plain).2 scope
      exact ⟨List.mem_map_of_mem among, broken⟩

theorem break_not_mem_directiveProblems {start : Nat} {body : Text} :
    ∀ problem ∈ directiveProblems start body, '\n' ∉ problem.2 := by
  unfold directiveProblems
  cases read : readDirective body with
  | error failure => simp [break_not_mem_failure]
  | ok d =>
    have name := break_not_mem_identifier (isIdentifier_of_readDirective read)
    dsimp only
    split <;> simp [name]

theorem Placed.break_mem_problems {p : Placed} {offset : Nat} {message : Text} :
    (offset, message) ∈ p.problems saidMessages ∧ '\n' ∈ message ↔
      offset = p.start ∧ p.lexeme.BreaksReport message := by
  obtain ⟨start, l⟩ := p
  cases l with
  | markup run | angle mark => simp [problems, Lexeme.BreaksReport]
  | unclosed k =>
    refine iff_of_false ?_ And.right
    rintro ⟨mem, broken⟩
    obtain ⟨-, rfl⟩ := Prod.mk.inj (List.mem_singleton.1 mem)
    exact break_not_mem_unclosedMessage k broken
  | construct k body =>
    cases k with
    | directive =>
      refine iff_of_false ?_ (by simp [Lexeme.BreaksReport, Construct.isBundleTag])
      rintro ⟨mem, broken⟩
      exact break_not_mem_directiveProblems _ mem broken
    | bundleMessage | bundleSet =>
      simp only [problems, Lexeme.BreaksReport, Construct.isBundleTag, true_and]
      exact break_mem_tagProblems (by decide)
    | _ => simp [problems, Lexeme.BreaksReport, Construct.isBundleTag]

end JspEndpoint.Template

namespace JspEndpoint

open JspEndpoint.Template

theorem break_mem_lexemeProblems {source : Text} {q : Problem} :
    q ∈ lexemeProblems saidMessages source ∧ '\n' ∈ q.message ↔
      ∃ p ∈ place 0 (scan source),
        q.position = Position.ofOffset source p.start ∧ p.lexeme.BreaksReport q.message := by
  simp only [lexemeProblems, List.mem_flatMap, List.mem_map]
  constructor
  · rintro ⟨⟨p, mem, ⟨offset, message⟩, among, rfl⟩, broken⟩
    obtain ⟨rfl, breaks⟩ := Placed.break_mem_problems.1 ⟨among, broken⟩
    exact ⟨p, mem, rfl, breaks⟩
  · rintro ⟨p, mem, position, breaks⟩
    obtain ⟨among, broken⟩ := Placed.break_mem_problems.2 ⟨rfl, breaks⟩
    exact ⟨⟨p, mem, _, among, by rw [← position]⟩, broken⟩

theorem unbroken_iff {source : Text} :
    (∀ q ∈ lexemeProblems saidMessages source, '\n' ∉ q.message) ↔
      ∀ l ∈ scan source, ∀ message, ¬l.BreaksReport message := by
  rw [← forall_mem_place (P := fun l => ∀ message, ¬l.BreaksReport message) 0]
  constructor
  · intro unbroken p mem message breaks
    let problem : Problem := ⟨Position.ofOffset source p.start, message⟩
    obtain ⟨among, broken⟩ := (break_mem_lexemeProblems (q := problem)).2 ⟨p, mem, rfl, breaks⟩
    exact unbroken problem among broken
  · intro plain q among broken
    obtain ⟨p, mem, -, breaks⟩ := break_mem_lexemeProblems.1 ⟨among, broken⟩
    exact plain p mem q.message breaks

namespace ConversionError

/-- The line of a problem, if its message does not break it. -/
def problemLine (q : Problem) : Text :=
  "  line " ++ Text.ofNat q.position.line ++ ":" ++ Text.ofNat q.position.column ++ " " ++ q.message

theorem count_problemLine (q : Problem) : (problemLine q).count '\n' = q.message.count '\n' := by
  have number (n : Nat) : (Text.ofNat n).count '\n' = 0 :=
    List.count_eq_zero.2 (Text.break_not_mem_toDigits (by decide) n)
  have lead : ("  line " : Text).count '\n' = 0 := by decide
  have colon : (":" : Text).count '\n' = 0 := by decide
  have blank : (" " : Text).count '\n' = 0 := by decide
  unfold problemLine
  simp only [List.count_append, number, lead, colon, blank, Nat.zero_add]

theorem splitOn_message {path : Text} {found : List Problem} (plain : '\n' ∉ path) (ne : found ≠ []) :
    Text.splitOn '\n' (problems path found).message =
      ("problems parsing " ++ path ++ ":") ::
        found.flatMap fun q => Text.splitOn '\n' (problemLine q) := by
  have title : '\n' ∉ "problems parsing " ++ path ++ ":" := by simp [plain]
  have whole : (problems path found).message =
      ("problems parsing " ++ path ++ ":") ++ '\n' :: ['\n'].intercalate (found.map problemLine) := by
    have mark : (":\n" : Text) = ":" ++ ['\n'] := rfl
    have lead : ("  line " : Text) = "  " ++ "line " := rfl
    have lines : (fun q : Problem => "  " ++ q.text) = problemLine := by
      funext q
      unfold problemLine Problem.text Position.text
      simp only [lead, List.append_assoc]
    unfold message
    simp only [lines, mark, List.append_assoc]
    rfl
  rw [whole, Text.splitOn_append_cons, Text.splitOn_of_not_mem title,
    Text.splitOn_intercalate (by simpa using ne), List.flatMap_map]
  rfl

theorem length_problemLines (found : List Problem) :
    (found.flatMap fun q => Text.splitOn '\n' (problemLine q)).length =
      found.length + (found.flatMap Problem.message).count '\n' := by
  induction found with
  | nil => rfl
  | cons q rest ih =>
    rw [List.flatMap_cons, List.length_append, Text.length_splitOn, count_problemLine, ih,
      List.length_cons, List.flatMap_cons, List.count_append]
    omega

theorem problemLines_of_unbroken {found : List Problem} (h : ∀ q ∈ found, '\n' ∉ q.message) :
    (found.flatMap fun q => Text.splitOn '\n' (problemLine q)) = found.map problemLine := by
  rw [List.map_eq_flatMap]
  refine List.flatMap_congr fun q mem => Text.splitOn_of_not_mem ?_
  rw [← List.count_eq_zero, count_problemLine, List.count_eq_zero]
  exact h q mem

end ConversionError

namespace Page

open ConversionError

/-- The report on a page has its title and then the lines of each problem. A message has a line break
exactly if it repeats an unknown scope that has one. So every problem is told on one line of its own
exactly if no tag has such a scope. -/
theorem report_lines (p : Page) (source path : Text) (found : List Problem)
    (plain : '\n' ∉ p.sourcePath) (failed : p.convert (some source) = .error (.problems path found)) :
    let lines := Text.splitOn '\n' (ConversionError.problems path found).message
    path = p.sourcePath ∧
      lines = ("problems parsing " ++ path ++ ":") ::
        found.flatMap (fun q => Text.splitOn '\n' (problemLine q)) ∧
      lines.length = found.length + 1 + (found.flatMap Problem.message).count '\n' ∧
      (∀ q, q ∈ found ∧ '\n' ∈ q.message ↔
        ∃ placed ∈ place 0 (scan source),
          q.position = Position.ofOffset source placed.start ∧
            placed.lexeme.BreaksReport q.message) ∧
      ((lines = ("problems parsing " ++ path ++ ":") :: found.map problemLine ∧
          ∀ q ∈ found, '\n' ∉ q.message) ↔
        ∀ l ∈ scan source, ∀ message, ¬l.BreaksReport message) ∧
      (lines.length = found.length + 1 ↔ ∀ l ∈ scan source, ∀ message, ¬l.BreaksReport message) := by
  intro lines
  obtain ⟨-, made⟩ | ⟨some_found, made⟩ := convert_cases p source
  · rw [made] at failed
    cases failed
  rw [made] at failed
  obtain ⟨rfl, rfl⟩ := ConversionError.problems.inj (Except.error.inj failed)
  have cut : lines = _ := splitOn_message plain some_found
  have count : lines.length = (lexemeProblems saidMessages source).length + 1 +
      ((lexemeProblems saidMessages source).flatMap Problem.message).count '\n' := by
    rw [cut, List.length_cons, length_problemLines, Nat.add_right_comm]
  have one_each : lines.length = (lexemeProblems saidMessages source).length + 1 ↔
      ∀ q ∈ lexemeProblems saidMessages source, '\n' ∉ q.message := by
    rw [count, Nat.add_eq_left, List.count_eq_zero, List.mem_flatMap]
    simp only [not_exists, not_and]
  refine ⟨rfl, cut, count, fun q => break_mem_lexemeProblems, ?_, one_each.trans unbroken_iff⟩
  rw [← unbroken_iff]
  refine ⟨And.right, fun unbroken => ⟨?_, unbroken⟩⟩
  rw [cut, problemLines_of_unbroken unbroken]

theorem report_lines_two :
    let page : Page := ⟨"p.jsp", "", "/p.jsp", "P", ⟨false, false⟩⟩
    let source : Text := "<%@ b %>\n<fmt:message key='a' var='v' scope='b'/>"
    let found : List Problem :=
      [⟨⟨1, 0⟩, "unknown directive 'b'"⟩, ⟨⟨2, 0⟩, "invalid scope 'b' on <fmt:message>"⟩]
    '\n' ∉ page.sourcePath ∧ page.convert (some source) = .error (.problems "p.jsp" found) ∧
      Text.splitOn '\n' (ConversionError.problems "p.jsp" found).message =
        ["problems parsing p.jsp:", "  line 1:0 unknown directive 'b'",
          "  line 2:0 invalid scope 'b' on <fmt:message>"] ∧
      ∀ l ∈ scan source, ∀ message, ¬l.BreaksReport message := by
  intro page source found
  have plain : '\n' ∉ page.sourcePath := by decide
  have failed : page.convert (some source) = .error (.problems "p.jsp" found) := by decide +kernel
  have lines : Text.splitOn '\n' (ConversionError.problems "p.jsp" found).message =
      ["problems parsing p.jsp:", "  line 1:0 unknown directive 'b'",
        "  line 2:0 invalid scope 'b' on <fmt:message>"] := by
    decide +kernel
  have one_each := (report_lines page source "p.jsp" found plain failed).2.2.2.2.2
  exact ⟨plain, failed, lines, one_each.1 (by rw [lines]; rfl)⟩

/-- A scope that spans lines makes two lines of its problem. -/
theorem report_lines_broken :
    let page : Page := ⟨"p.jsp", "", "/p.jsp", "P", ⟨false, false⟩⟩
    let source : Text := "<fmt:message key='a' var='v' scope='b\nc'/>"
    let found : List Problem := [⟨⟨1, 0⟩, "invalid scope 'b\nc' on <fmt:message>"⟩]
    page.convert (some source) = .error (.problems "p.jsp" found) ∧
      Text.splitOn '\n' (ConversionError.problems "p.jsp" found).message =
        ["problems parsing p.jsp:", "  line 1:0 invalid scope 'b", "c' on <fmt:message>"] := by
  decide +kernel

end Page

end JspEndpoint
