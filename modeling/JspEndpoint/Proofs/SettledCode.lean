import JspEndpoint.Proofs.BlockComments
import JspEndpoint.Proofs.WordSubstitution

/-!
One substitution is enough. A match is said without the search for it: a pattern occurs in a text if
its atoms take neighbouring pieces of it. No rule of a stage occurs in what the rules of that stage have
written, although a deleted call can join the text around it to a new one and although the words that
are looked for stand in what is written for them. So a second pass changes nothing.
-/

namespace JspEndpoint.Code

open JspEndpoint.Text (Alternates HasWord isBlank isWord runs)

/-- What an atom may take between the character `left` and the text `rest`. -/
def Atom.Takes (left : Option Char) (taken rest : Text) : Atom → Prop
  | literal text => taken = text
  | wordBoundary => taken = [] ∧ Text.wordBoundary left rest.head? = true
  | blanks => ∀ c ∈ taken, isBlank c
  | lineBreak => taken = [] ∨ taken = "\n"

namespace Pattern

/-- The atoms take neighbouring pieces, which make up `taken`. -/
def Matches (left : Option Char) (taken rest : Text) : Pattern → Prop
  | [] => taken = []
  | atom :: p => ∃ first more, taken = first ++ more ∧ atom.Takes left first (more ++ rest) ∧
      Matches (first.getLast?.or left) more rest p

/-- The pattern matches somewhere in the text. -/
def OccursIn (t : Text) (p : Pattern) : Prop :=
  ∃ front taken rest, t = front ++ taken ++ rest ∧ p.Matches front.getLast? taken rest

end Pattern

theorem Atom.takes_of_take? {left : Option Char} {t taken : Text} {atom : Atom}
    (h : atom.take? left t = some taken) : ∃ rest, t = taken ++ rest ∧ atom.Takes left taken rest := by
  cases atom with
  | literal text =>
    obtain ⟨starts, rfl⟩ : Text.startsWith t text ∧ text = taken := by simpa [take?] using h
    obtain ⟨rest, split⟩ := Text.after?_isSome_iff.1 starts
    exact ⟨rest, split.symm, rfl⟩
  | wordBoundary =>
    obtain ⟨boundary, rfl⟩ : Text.wordBoundary left t.head? ∧ [] = taken := by simpa [take?] using h
    exact ⟨t, rfl, rfl, boundary⟩
  | blanks =>
    obtain rfl : t.takeWhile isBlank = taken := Option.some.inj h
    exact ⟨Text.skipBlanks t, List.takeWhile_append_dropWhile.symm,
      List.all_eq_true.1 List.all_takeWhile⟩
  | lineBreak =>
    obtain rfl : (t.take 1).filter (· = '\n') = taken := Option.some.inj h
    refine ⟨skipBreak t, (break_append_skipBreak t).symm, ?_⟩
    cases t with
    | nil => exact .inl rfl
    | cons c t => by_cases here : c = '\n' <;> simp [Takes, here]

theorem Pattern.matches_of_match? {left : Option Char} {t taken : Text} {p : Pattern}
    (h : p.match? left t = some taken) : ∃ rest, t = taken ++ rest ∧ p.Matches left taken rest := by
  induction p generalizing left t taken with
  | nil =>
    obtain rfl : [] = taken := Option.some.inj h
    exact ⟨t, rfl, rfl⟩
  | cons atom p ih =>
    simp only [Pattern.match?, Option.bind_eq_bind, Option.bind_eq_some_iff, Option.pure_def,
      Option.some.injEq] at h
    obtain ⟨first, took, more, matched, rfl⟩ := h
    obtain ⟨behind, rfl, takes⟩ := Atom.takes_of_take? took
    rw [List.drop_left] at matched
    obtain ⟨rest, rfl, later⟩ := ih matched
    exact ⟨rest, (List.append_assoc first more rest).symm, first, more, rfl, takes, later⟩

theorem replaceFrom_of_free {p : Pattern} (replacement : Text) {left : Option Char} {t : Text}
    (free : ∀ front taken rest, t = front ++ taken ++ rest →
      ¬p.Matches (front.getLast?.or left) taken rest) :
    replaceFrom p replacement left 0 t = t := by
  induction t generalizing left with
  | nil => rfl
  | cons c t ih =>
    have missed : p.match? left (c :: t) = none := by
      by_contra found
      obtain ⟨taken, found⟩ := Option.ne_none_iff_exists'.1 found
      obtain ⟨rest, split, matched⟩ := Pattern.matches_of_match? found
      exact free [] taken rest split matched
    rw [replaceFrom_none replacement missed, ih]
    intro front taken rest split
    rw [← getLast?_cons_or c front left]
    exact free (c :: front) taken rest (by rw [split, List.cons_append, List.cons_append])

theorem Rule.apply_of_free {rule : Rule} {t : Text} (free : ¬rule.pattern.OccursIn t) :
    rule.apply t = t := by
  apply replaceFrom_of_free
  intro front taken rest split matched
  rw [Option.or_none] at matched
  exact free ⟨front, taken, rest, split, matched⟩

theorem substitute_of_free {stage : Stage} {scope : Scope} {t : Text}
    (free : ∀ rule ∈ rules, rule.stage = stage → rule.scope = scope → ¬rule.pattern.OccursIn t) :
    substitute stage scope t = t := by
  have kept : ∀ rule ∈ rules.filter fun rule => rule.stage = stage ∧ rule.scope = scope,
      rule.apply t = t := by
    intro rule chosen
    obtain ⟨listed, same⟩ := List.mem_filter.1 chosen
    obtain ⟨same_stage, same_scope⟩ := of_decide_eq_true same
    exact Rule.apply_of_free (free rule listed same_stage same_scope)
  rw [substitute]
  generalize rules.filter _ = chosen at kept
  induction chosen with
  | nil => rfl
  | cons rule chosen ih =>
    obtain ⟨first, later⟩ := List.forall_mem_cons.1 kept
    rw [List.foldl_cons, first, ih later]

theorem Pattern.infix_of_occursIn {mark t : Text} {p : Pattern}
    (h : OccursIn t (.literal mark :: p)) : mark <:+: t := by
  obtain ⟨front, taken, rest, rfl, first, more, rfl, rfl, -⟩ := h
  exact ⟨front, more ++ rest, by simp⟩

theorem Pattern.hasWord_of_occursIn {w t : Text} (ne : w ≠ []) (word : ∀ c ∈ w, isWord c = true)
    (h : OccursIn t (wholeWord w)) : HasWord w t := by
  obtain ⟨front, taken, rest, rfl, first, more, rfl, ⟨rfl, starts⟩, second, behind, rfl, rfl,
    third, last, rfl, ⟨rfl, ends⟩, rfl⟩ := h
  have outside : front.getLast?.any isWord = false := by
    obtain ⟨c, w, rfl⟩ := List.exists_cons_of_ne_nil ne
    simpa [Text.wordBoundary, word c List.mem_cons_self] using starts
  have ended := (wordBoundary_end ne word rest).1 (by simpa using ends)
  exact ⟨front, rest, by simp, (Option.any_eq_false _ _).1 outside, ended⟩

/-- A return without a value, with any blanks before its semicolon. -/
def HasBareReturn (t : Text) : Prop :=
  ∃ front blanks back, t = front ++ "return" ++ blanks ++ ";" ++ back ∧
    (∀ c ∈ front.getLast?, isWord c = false) ∧ ∀ c ∈ blanks, isBlank c

theorem hasBareReturn_of_occursIn {t : Text} (h : bareReturn.OccursIn t) : HasBareReturn t := by
  obtain ⟨front, taken, rest, rfl, first, more, rfl, ⟨rfl, starts⟩, second, behind, rfl, rfl,
    blanks, last, rfl, blank, semicolon, done, rfl, rfl, rfl⟩ := h
  refine ⟨front, blanks, rest, by simp, ?_, blank⟩
  have word : isWord 'r' = true := return_word 'r' (by decide)
  have outside : front.getLast?.any isWord = false := by
    simpa [Text.wordBoundary, word] using starts
  exact (Option.any_eq_false _ _).1 outside

section Renaming

variable {w replacement : Text}

theorem alternates_renamed (ne : w ≠ []) (word : ∀ c ∈ w, isWord c = true)
    (written_ne : replacement ≠ []) (written : ∀ c ∈ replacement, isWord c = true) {kind : Bool}
    {pieces : List Text} (alternate : Alternates kind pieces) :
    Alternates kind (pieces.map (renamed w replacement)) := by
  induction pieces generalizing kind with
  | nil => trivial
  | cons run rest ih =>
    obtain ⟨run_ne, uniform, later⟩ := alternate
    rw [List.map_cons, renamed]
    by_cases same : run = w
    · subst same
      obtain ⟨c, inside⟩ := List.exists_mem_of_ne_nil run ne
      have is : kind = true := (uniform c inside).symm.trans (word c inside)
      rw [if_pos rfl]
      exact ⟨written_ne, fun d there => (written d there).trans is.symm, ih later⟩
    · rw [if_neg same]
      exact ⟨run_ne, uniform, ih later⟩

theorem not_hasWord_renamed (ne : w ≠ []) (word : ∀ c ∈ w, isWord c = true)
    (written_ne : replacement ≠ []) (written : ∀ c ∈ replacement, isWord c = true)
    (other : replacement ≠ w) (t : Text) :
    ¬HasWord w ((runs t).flatMap (renamed w replacement)) := by
  -- A word that is written for another one is a run again, so the other one is gone.
  obtain ⟨kind, alternate⟩ := Text.alternates_runs t
  have again := (alternates_renamed ne word written_ne written alternate).runs_flatten
  rw [Text.hasWord_iff ne word, List.flatMap_def, again, List.mem_map]
  rintro ⟨run, -, same⟩
  rw [renamed] at same
  split_ifs at same with was
  · exact other same
  · exact was same

end Renaming

section Returns

/-- Every return among the runs has a value. -/
def Finished (pieces : List Text) : Prop := pieces.IsChain fun run gap => pastReturn? run gap = none

theorem Finished.cons {run : Text} {pieces : List Text} (h : Finished pieces) (other : run ≠ "return") :
    Finished (run :: pieces) :=
  List.isChain_cons.2 ⟨fun _ _ => if_neg other, h⟩

theorem pastSemicolon?_blanks {blanks : Text} (blank : ∀ c ∈ blanks, isBlank c) (t : Text) :
    pastSemicolon? (blanks ++ ";" ++ t) = some t := by
  induction blanks with
  | nil =>
    have semicolon : isBlank ';' = false := by decide
    exact (pastSemicolon?_cons ';' t).trans (by simp [semicolon])
  | cons c blanks ih =>
    obtain ⟨here, later⟩ := List.forall_mem_cons.1 blank
    rw [List.cons_append, List.cons_append, pastSemicolon?_cons, if_pos here, ih later]

theorem not_hasBareReturn_of_finished {t : Text} (h : Finished (runs t)) : ¬HasBareReturn t := by
  rintro ⟨front, blanks, back, rfl, outside, blank⟩
  have gap : ∀ c ∈ blanks ++ ";", isWord c = false := by
    intro c inside
    rcases List.mem_append.1 inside with early | late
    · exact Text.isWord_of_isBlank (blank c early)
    · rw [List.mem_singleton.1 late]
      exact isWord_semicolon
  have gap_ne : blanks ++ (";" : Text) ≠ [] := List.append_ne_nil_of_right_ne_nil _ (by decide)
  obtain ⟨more, rest, behind⟩ := Text.exists_runs_of_uniform gap_ne gap back
  have stop : ∀ c ∈ (blanks ++ ";" ++ back).head?, isWord c = false := by
    rw [List.head?_append_of_ne_nil _ gap_ne]
    exact fun c first => gap c (List.mem_of_head? first)
  have split : runs (front ++ ("return" ++ (blanks ++ ";" ++ back))) =
      runs front ++ ("return" : Text) :: (blanks ++ ";" ++ more) :: rest := by
    rw [Text.runs_append, Text.runs_cons (by decide) return_word stop, behind]
    intro c last d first
    rw [outside c last, return_word d (List.mem_of_head? first)]
    decide
  simp only [List.append_assoc] at h split
  rw [split] at h
  have finished := (List.isChain_cons_cons.1 (List.isChain_append.1 h).2.1).1
  rw [pastReturn?, if_pos rfl, ← List.append_assoc, pastSemicolon?_blanks blank] at finished
  cases finished

theorem head?_finishReturns {kind : Bool} {pieces : List Text} (alternate : Alternates kind pieces) :
    (finishReturns pieces).head? = pieces.flatten.head? := by
  fun_cases finishReturns pieces with
  | case1 run gap more rest found =>
    obtain ⟨rfl, -⟩ := pastReturn?_eq_some.1 found
    rfl
  | case2 run gap more missed =>
    obtain ⟨ne, -⟩ := alternate
    rw [List.flatten_cons, List.head?_append_of_ne_nil _ ne, List.head?_append_of_ne_nil _ ne]
  | case3 => rfl

theorem finishReturns_cons {run : Text} (other : run ≠ "return") (more : List Text) :
    finishReturns (run :: more) = run ++ finishReturns more := by
  cases more with
  | nil => rfl
  | cons gap more =>
    rw [finishReturns, pastReturn?, if_neg other]

/-- The runs of what is written for a return, but for its marks at the end. -/
def returnRuns : List Text := ["return", " ", "stringOut", ".", "toString"]

theorem alternates_returnRuns : Alternates true returnRuns :=
  ⟨by decide, return_word, by decide, Text.forall_isWord (by decide), by decide,
    Text.forall_isWord (by decide), by decide, Text.forall_isWord (by decide), by decide,
    Text.forall_isWord (by decide), trivial⟩

theorem runs_returnBuffer {rest t : Text} (uniform : ∀ c ∈ rest, isWord c = false)
    (start : ∀ c ∈ t.head?, isWord c = true) :
    runs ("return stringOut.toString();" ++ rest ++ t) =
      returnRuns ++ ("();" ++ rest) :: runs t := by
  have words : runs "return stringOut.toString" = returnRuns := alternates_returnRuns.runs_flatten
  have marks : ∀ c ∈ ("();" : Text) ++ rest, isWord c = false :=
    List.forall_mem_append.2 ⟨Text.forall_isWord (by decide), uniform⟩
  have split : "return stringOut.toString();" ++ rest ++ t =
      "return stringOut.toString" ++ ("();" ++ rest ++ t) := rfl
  rw [split, Text.runs_append, words,
    Text.runs_cons (List.append_ne_nil_of_left_ne_nil (by decide) _) marks start]
  intro c last d first
  obtain rfl : 'g' = c := Option.some.inj last
  obtain rfl : '(' = d := Option.some.inj first
  rw [Text.isWord_ascii (by decide), Text.isWord_ascii (by decide)]
  decide

/-- What is written for a return has a value and ends in a run of its own, and the returns that are
kept are followed by the run that followed them. -/
theorem finished_finishReturns {kind : Bool} {pieces : List Text} (alternate : Alternates kind pieces) :
    Finished (runs (finishReturns pieces)) := by
  fun_induction finishReturns pieces generalizing kind with
  | case1 run gap more rest found ih =>
    obtain ⟨-, uniform, -, gap_uniform, later⟩ := alternate
    obtain ⟨rfl, past⟩ := pastReturn?_eq_some.1 found
    obtain rfl := eq_true_of_return uniform
    have start := later.head_flatten
    rw [← head?_finishReturns later] at start
    have rest_uniform := gap_of_pastSemicolon? gap_uniform past
    rw [runs_returnBuffer (List.forall_mem_cons.1 rest_uniform).2 start]
    refine List.isChain_append.2 ⟨by decide, (ih later).cons (by simp), ?_⟩
    intro run last next _
    obtain rfl : ("toString" : Text) = run := Option.some.inj last
    exact if_neg (by decide)
  | case2 run gap more missed ih =>
    obtain ⟨run_ne, uniform, later⟩ := alternate
    have start := later.head_flatten
    rw [← head?_finishReturns later] at start
    rw [Text.runs_cons run_ne uniform start]
    by_cases same : run = "return"
    · -- the next run is written as it was
      subst same
      obtain rfl := eq_true_of_return uniform
      have finished := ih later
      obtain ⟨gap_ne, gap_uniform, after⟩ := later
      have other : gap ≠ "return" := by
        rintro rfl
        cases eq_true_of_return gap_uniform
      have start := after.head_flatten
      rw [← head?_finishReturns after] at start
      rw [finishReturns_cons other, Text.runs_cons gap_ne gap_uniform start] at finished ⊢
      exact List.isChain_cons_cons.2 ⟨missed, finished⟩
    · exact (ih later).cons same
  | case3 pieces short =>
    rw [alternate.runs_flatten]
    cases pieces with
    | nil => exact List.isChain_nil
    | cons run rest =>
      cases rest with
      | nil => exact List.isChain_singleton run
      | cons gap more => exact absurd rfl (short run gap more)

theorem not_hasBareReturn_scriptlet (t : Text) : ¬HasBareReturn (substitute .render .scriptlet t) := by
  obtain ⟨kind, alternate⟩ := Text.alternates_runs t
  rw [substitute_scriptlet]
  exact not_hasBareReturn_of_finished (finished_finishReturns alternate)

end Returns

theorem not_hasWord_declaration (t : Text) :
    ¬HasWord "ServletResponse" (substitute .render .declaration t) := by
  rw [substitute_declaration]
  exact not_hasWord_renamed (by decide) servletResponse_word (by decide)
    (Text.forall_isWord (by decide)) (by decide) t

theorem not_hasWord_intake (t : Text) :
    ¬HasWord "pageContext" (substitute .intake .scriptlet t) := by
  rw [substitute_intake]
  exact not_hasWord_renamed (by decide) pageContext_word (by decide)
    (Text.forall_isWord (by decide)) (by decide) (withoutSetup t)

theorem hasWord_of_setupCall {t : Text} (h : setupCall <:+: t) : HasWord "pageContext" t := by
  obtain ⟨front, back, rfl⟩ := h
  have call : setupCall = "PageContextFactory.setPageContext(" ++ ("pageContext" ++ ");") := rfl
  refine ⟨front ++ "PageContextFactory.setPageContext(", ");" ++ back, ?_, ?_, ?_⟩
  · simp only [call, List.append_assoc]
  · rw [List.getLast?_append_of_ne_nil _ (by decide)]
    intro c last
    obtain rfl : '(' = c := Option.some.inj last
    exact Text.isWord_ascii (by decide)
  · intro c first
    obtain rfl : ')' = c := Option.some.inj first
    exact Text.isWord_ascii (by decide)

theorem not_occursIn_substitute {rule : Rule} (listed : rule ∈ rules) (t : Text) :
    ¬rule.pattern.OccursIn (substitute rule.stage rule.scope t) := by
  intro occurs
  simp only [rules, List.mem_cons, List.not_mem_nil, or_false] at listed
  obtain ⟨no_opener, no_closer⟩ := not_infix_sourceEcho t
  rcases listed with rfl | rfl | rfl | rfl | rfl | rfl | rfl
  · exact not_hasWord_intake t (hasWord_of_setupCall (Pattern.infix_of_occursIn occurs))
  · exact not_hasWord_intake t (Pattern.hasWord_of_occursIn (by decide) pageContext_word occurs)
  · exact not_hasBareReturn_scriptlet t (hasBareReturn_of_occursIn occurs)
  · exact not_hasWord_declaration t
      (Pattern.hasWord_of_occursIn (by decide) servletResponse_word occurs)
  · exact no_opener (List.IsInfix.trans ⟨[], ['*'], rfl⟩ (Pattern.infix_of_occursIn occurs))
  · exact no_opener (Pattern.infix_of_occursIn occurs)
  · exact no_closer (Pattern.infix_of_occursIn occurs)

theorem substitute_substitute (stage : Stage) (scope : Scope) (t : Text) :
    substitute stage scope (substitute stage scope t) = substitute stage scope t := by
  apply substitute_of_free
  rintro rule listed rfl rfl
  exact not_occursIn_substitute listed t

theorem exists_of_append_break {t front middle back : Text} {last : Char} (plain : last ≠ '\n')
    (split : t ++ "\n" = front ++ (middle ++ [last]) ++ back) :
    ∃ rest, back = rest ++ "\n" ∧ t = front ++ (middle ++ [last]) ++ rest := by
  obtain rfl | ⟨rest, c, rfl⟩ := List.eq_nil_or_concat' back
  · have ends := congrArg List.getLast? split
    simp [Ne.symm plain] at ends
  · rw [← List.append_assoc] at split
    obtain ⟨same, broken⟩ := List.append_inj' split rfl
    exact ⟨rest, by rw [broken], same⟩

theorem hasWord_of_append_break {w t : Text} (ne : w ≠ []) (word : ∀ c ∈ w, isWord c = true)
    (h : HasWord w (t ++ "\n")) : HasWord w t := by
  obtain ⟨front, back, split, before, after⟩ := h
  obtain ⟨middle, last, rfl⟩ := (List.eq_nil_or_concat' w).resolve_left ne
  have plain : last ≠ '\n' := by
    rintro rfl
    have broken := word '\n' (by simp)
    rw [Text.isWord_ascii (by decide)] at broken
    exact absurd broken (by decide)
  obtain ⟨rest, rfl, rfl⟩ := exists_of_append_break plain split
  refine ⟨front, rest, rfl, before, fun c first => after c ?_⟩
  rw [List.head?_append, first]
  rfl

theorem hasBareReturn_of_append_break {t : Text} (h : HasBareReturn (t ++ "\n")) : HasBareReturn t := by
  obtain ⟨front, blanks, back, split, before, blank⟩ := h
  have last : t ++ "\n" = (front ++ "return") ++ (blanks ++ [';']) ++ back := by
    rw [split]
    simp
  obtain ⟨rest, -, rfl⟩ := exists_of_append_break (by decide) last
  exact ⟨front, blanks, rest, by simp, before, blank⟩

end JspEndpoint.Code

namespace JspEndpoint

namespace Endpoint

open JspEndpoint.Template

/-- Every scriptlet among the parts is the outcome of the substitution for code that is taken in. -/
def TakenIn (parts : List Part) : Prop :=
  ∀ code, .scriptlet code ∈ parts → ∃ t, code = Code.substitute .intake .scriptlet t

namespace TakenIn

variable {parts : List Part}

theorem push (h : TakenIn parts) {part : Part}
    (taken : ∀ code, part = .scriptlet code → ∃ t, code = Code.substitute .intake .scriptlet t) :
    TakenIn (parts ++ [part]) := by
  intro code inside
  rcases List.mem_append.1 inside with before | here
  · exact h code before
  · exact taken code (List.mem_singleton.1 here).symm

theorem join (h : TakenIn parts) (t : Text) : TakenIn (joinMarkup t parts) := by
  intro code inside
  apply h code
  fun_induction joinMarkup t parts with
  | case1 => simp at inside
  | case2 before => simp at inside
  | case3 part rest _ ih =>
    rcases List.mem_cons.1 inside with here | later
    · rw [here]
      exact List.mem_cons_self
    · have behind : TakenIn rest := fun code inside => h code (List.mem_cons_of_mem part inside)
      exact List.mem_cons_of_mem part (ih behind later)

theorem add {b : Body} (h : TakenIn b.codes) (l : Lexeme) : TakenIn (b.add l).codes := by
  cases l with
  | markup t | angle t => exact h.join t
  | unclosed k => exact h
  | construct k text =>
    cases k with
    | scriptlet =>
      apply h.push
      intro code same
      exact ⟨text, (Part.scriptlet.inj same).symm⟩
    | expression => exact h.push (by simp)
    | comment =>
      cases started : b.started with
      | false => simpa [Body.add, started] using h
      | true => simpa [Body.add, started] using h.push (by simp)
    | _ => exact h

theorem foldl {b : Body} (h : TakenIn b.codes) (lexemes : List Lexeme) :
    TakenIn (lexemes.foldl Body.add b).codes := by
  induction lexemes generalizing b with
  | nil => exact h
  | cons l rest ih => exact ih (h.add l)

end TakenIn

end Endpoint

namespace Page

open JspEndpoint.Code
open JspEndpoint.Template
open JspEndpoint.Endpoint

theorem takenIn_of_convert {p : Page} {source : Text} {c : EndpointClass}
    (h : p.convert (some source) = .ok c) : TakenIn c.codes := by
  have taken : TakenIn (Body.ofLexemes (scan source)).codes := by
    rw [Body.ofLexemes_eq_foldl]
    exact TakenIn.foldl (fun _ none => absurd none List.not_mem_nil) (scan source)
  rw [← body_assemble p source] at taken
  rw [eq_of_convert h]
  exact taken

/-- The outcome of a substitution has no match of any of the rules that made it, so to apply them
again changes nothing. The scriptlets of a class hold neither the name of the page context nor its
setup call; what is written for a scriptlet has no return without a value, and what is written for a
declaration does not name the response of a plain servlet. -/
theorem substitution_settles :
    (∀ stage scope t,
      (∀ rule ∈ rules, rule.stage = stage → rule.scope = scope →
        ¬rule.pattern.OccursIn (substitute stage scope t)) ∧
      substitute stage scope (substitute stage scope t) = substitute stage scope t) ∧
    (∀ (p : Page) source c, p.convert (some source) = .ok c → ∀ code, .scriptlet code ∈ c.codes →
      ¬Text.HasWord "pageContext" code ∧ ¬setupCall <:+: code) ∧
    (∀ code, ¬HasBareReturn (Part.scriptlet code).render) ∧
    ∀ code, ¬Text.HasWord "ServletResponse" (Part.declaration code).render := by
  refine ⟨fun stage scope t => ⟨?_, substitute_substitute stage scope t⟩, ?_, ?_, ?_⟩
  · rintro rule listed rfl rfl
    exact not_occursIn_substitute listed t
  · intro p source c h code inside
    obtain ⟨t, rfl⟩ := takenIn_of_convert h code inside
    exact ⟨not_hasWord_intake t, mt hasWord_of_setupCall (not_hasWord_intake t)⟩
  · intro code bare
    exact not_hasBareReturn_scriptlet code (hasBareReturn_of_append_break bare)
  · intro code named
    exact not_hasWord_declaration code
      (hasWord_of_append_break (by decide) servletResponse_word named)

theorem substitution_settles_nested :
    let page : Page := ⟨"p.jsp", "", "/p.jsp", "P", ⟨false, false⟩⟩
    let source : Text :=
      "<%PageContextFactory.setPageContext(PageContextFactory.setPageContext(pageContext);\npageContext);%>"
    let code : Text := "PageContextFactory.setPageContext(request);"
    ∃ c, page.convert (some source) = .ok c ∧ .scriptlet code ∈ c.codes ∧
      ¬Text.HasWord "pageContext" code ∧ ¬setupCall <:+: code := by
  -- Without the call in the middle, what stands around it is a setup call again; its argument is
  -- renamed.
  intro page source code
  have ok : page.convert (some source) =
      .ok { EndpointClass.new "" "P" "/p.jsp" "p.jsp" with codes := [.scriptlet code] } := by
    decide +kernel
  have inside : Part.scriptlet code ∈ [Part.scriptlet code] := List.mem_singleton_self _
  exact ⟨_, ok, inside, substitution_settles.2.1 page source _ ok code inside⟩

end Page

end JspEndpoint
