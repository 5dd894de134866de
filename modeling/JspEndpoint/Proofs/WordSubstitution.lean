import JspEndpoint.Proofs.LiteralPatterns
import JspEndpoint.Proofs.WordRuns

/-!
Substitutions in Java code, word by word. A pattern that starts at a word boundary and goes on with a
word character can only match at the start of a run of word characters. So renaming a word replaces the
runs that are this word, and finishing a return replaces a run and the front of the run after it; no
other run is changed. The setup call is a fixed text and is looked for from left to right.
-/

namespace JspEndpoint.Code

open JspEndpoint.Text (Alternates isBlank isWord runs skipBlanks)

section Matching

variable {left : Option Char} {t mark : Text} {p : Pattern}

theorem match?_wordBoundary : Pattern.match? left t (.wordBoundary :: p) =
    if Text.wordBoundary left t.head? then Pattern.match? left t p else none := by
  simp only [Pattern.match?, Atom.take?]
  split <;> simp

theorem match?_literal_append : Pattern.match? left (mark ++ t) (.literal mark :: p) =
    (Pattern.match? (mark.getLast?.or left) t p).map (mark ++ ·) := by
  have starts : Text.startsWith (mark ++ t) mark := Text.after?_isSome_iff.2 (List.prefix_append mark t)
  simp only [Pattern.match?, Atom.take?, starts, if_true, Option.bind_eq_bind, Option.bind_some,
    List.drop_left, Option.pure_def, Option.map_eq_bind, Function.comp_def]

theorem match?_literal_none (other : ¬mark <+: t) :
    Pattern.match? left t (.literal mark :: p) = none := by
  have missed : ¬Text.startsWith t mark := mt Text.after?_isSome_iff.1 other
  simp [Pattern.match?, Atom.take?, missed]

theorem match?_blanks : Pattern.match? left t (.blanks :: p) =
    (Pattern.match? ((t.takeWhile isBlank).getLast?.or left) (skipBlanks t) p).map
      (t.takeWhile isBlank ++ ·) := by
  have rest : t.drop (t.takeWhile isBlank).length = skipBlanks t := by
    have split : t.takeWhile isBlank ++ skipBlanks t = t := List.takeWhile_append_dropWhile
    calc t.drop (t.takeWhile isBlank).length
      _ = (t.takeWhile isBlank ++ skipBlanks t).drop (t.takeWhile isBlank).length := by rw [split]
      _ = skipBlanks t := List.drop_left
  simp only [Pattern.match?, Atom.take?, Option.bind_eq_bind, Option.bind_some, rest,
    Option.pure_def, Option.map_eq_bind, Function.comp_def]

end Matching

theorem any_isWord_last {kind : Bool} {run : Text} (ne : run ≠ [])
    (uniform : ∀ c ∈ run, isWord c = kind) (left : Option Char) :
    (run.getLast?.or left).any isWord = kind := by
  rw [List.getLast?_eq_some_getLast ne, Option.some_or, Option.any_some]
  exact uniform _ (List.getLast_mem ne)

section WordFirst

variable {w : Text} {p : Pattern} {replacement : Text} {left : Option Char} {kind : Bool}

theorem match?_of_not_start (ne : w ≠ []) (word : ∀ c ∈ w, isWord c = true) {c : Char} {t : Text}
    (h : isWord c = true → left.any isWord = true) :
    Pattern.match? left (c :: t) (.wordBoundary :: .literal w :: p) = none := by
  by_cases boundary : Text.wordBoundary left (some c)
  · have other : isWord c = false := by
      cases same : isWord c with
      | false => rfl
      | true => simp [Text.wordBoundary, h same, same] at boundary
    rw [match?_wordBoundary, List.head?_cons, if_pos boundary]
    apply match?_literal_none
    intro starts
    obtain ⟨d, more, rfl⟩ := List.exists_cons_of_ne_nil ne
    obtain rfl := (List.cons_prefix_cons.1 starts).1
    rw [word d List.mem_cons_self] at other
    cases other
  · rw [match?_wordBoundary, List.head?_cons, if_neg boundary]

theorem replaceFrom_inside (ne : w ≠ []) (word : ∀ c ∈ w, isWord c = true) {run : Text}
    (uniform : ∀ c ∈ run, isWord c = kind) (inside : kind = true → left.any isWord = true) (t : Text) :
    replaceFrom (.wordBoundary :: .literal w :: p) replacement left 0 (run ++ t) =
      run ++ replaceFrom (.wordBoundary :: .literal w :: p) replacement (run.getLast?.or left) 0 t := by
  induction run generalizing left with
  | nil => rfl
  | cons c run ih =>
    obtain ⟨here, later⟩ := List.forall_mem_cons.1 uniform
    have missed : Pattern.match? left (c :: (run ++ t)) (.wordBoundary :: .literal w :: p) = none :=
      match?_of_not_start ne word fun is => inside (here.symm.trans is)
    rw [List.cons_append, replaceFrom_none replacement missed, ih later, getLast?_cons_or,
      List.cons_append]
    intro is
    rw [Option.any_some, here, is]

theorem replaceFrom_run (ne : w ≠ []) (word : ∀ c ∈ w, isWord c = true) {run t : Text}
    (run_ne : run ≠ []) (uniform : ∀ c ∈ run, isWord c = kind)
    (missed : Pattern.match? left (run ++ t) (.wordBoundary :: .literal w :: p) = none) :
    replaceFrom (.wordBoundary :: .literal w :: p) replacement left 0 (run ++ t) =
      run ++ replaceFrom (.wordBoundary :: .literal w :: p) replacement (run.getLast?.or left) 0 t := by
  obtain ⟨c, more, rfl⟩ := List.exists_cons_of_ne_nil run_ne
  obtain ⟨here, later⟩ := List.forall_mem_cons.1 uniform
  rw [List.cons_append] at missed ⊢
  rw [replaceFrom_none replacement missed, replaceFrom_inside ne word later, getLast?_cons_or,
    List.cons_append]
  intro is
  rw [Option.any_some, here, is]

theorem match?_gap (ne : w ≠ []) (word : ∀ c ∈ w, isWord c = true) {run : Text} (run_ne : run ≠ [])
    (uniform : ∀ c ∈ run, isWord c = false) (t : Text) :
    Pattern.match? left (run ++ t) (.wordBoundary :: .literal w :: p) = none := by
  obtain ⟨c, more, rfl⟩ := List.exists_cons_of_ne_nil run_ne
  apply match?_of_not_start ne word
  rw [uniform c List.mem_cons_self]
  exact fun impossible => absurd impossible (by decide)

theorem wordBoundary_start {run : Text} (ne : run ≠ []) (uniform : ∀ c ∈ run, isWord c = true)
    (before : left.any isWord = false) (t : Text) :
    Text.wordBoundary left (run ++ t).head? = true := by
  obtain ⟨c, more, rfl⟩ := List.exists_cons_of_ne_nil ne
  simp [Text.wordBoundary, before, uniform c List.mem_cons_self]

theorem wordBoundary_end (ne : w ≠ []) (word : ∀ c ∈ w, isWord c = true) (t : Text) :
    Text.wordBoundary (w.getLast?.or left) t.head? = true ↔ ∀ c ∈ t.head?, isWord c = false := by
  rw [Text.wordBoundary, any_isWord_last ne word]
  cases t with
  | nil => simp
  | cons c t => simp

end WordFirst

abbrev wholeWord (w : Text) : Pattern := [.wordBoundary, .literal w, .wordBoundary]

/-- The run, or what is written for it if it is the word. -/
def renamed (w replacement run : Text) : Text := if run = w then replacement else run

section WholeWord

variable {w : Text} {left : Option Char}

theorem match?_wholeWord (ne : w ≠ []) (word : ∀ c ∈ w, isWord c = true) {run t : Text}
    (run_ne : run ≠ []) (uniform : ∀ c ∈ run, isWord c = true) (before : left.any isWord = false)
    (after : ∀ c ∈ t.head?, isWord c = false) :
    Pattern.match? left (run ++ t) (wholeWord w) = if run = w then some w else none := by
  rw [match?_wordBoundary, if_pos (wordBoundary_start run_ne uniform before t)]
  by_cases same : run = w
  · subst same
    rw [if_pos rfl, match?_literal_append, match?_wordBoundary,
      if_pos ((wordBoundary_end ne word t).2 after)]
    simp [Pattern.match?]
  · rw [if_neg same]
    by_cases starts : w <+: run ++ t
    · obtain ⟨rest, split⟩ := starts
      rw [← split, match?_literal_append, match?_wordBoundary, if_neg]
      · rfl
      · intro stops
        -- the word would be the first run, as the run is
        have first := Text.runs_cons ne word ((wordBoundary_end ne word rest).1 stops)
        rw [split, Text.runs_cons run_ne uniform after] at first
        exact same (List.cons.inj first).1
    · exact match?_literal_none starts

theorem replaceFrom_wholeWord (ne : w ≠ []) (word : ∀ c ∈ w, isWord c = true) (replacement : Text)
    {kind : Bool} {pieces : List Text} (alternate : Alternates kind pieces)
    (before : kind = true → left.any isWord = false) :
    replaceFrom (wholeWord w) replacement left 0 pieces.flatten =
      pieces.flatMap (renamed w replacement) := by
  induction pieces generalizing kind left with
  | nil => rfl
  | cons run rest ih =>
    obtain ⟨run_ne, uniform, later⟩ := alternate
    have next : replaceFrom (wholeWord w) replacement (run.getLast?.or left) 0 rest.flatten =
        rest.flatMap (renamed w replacement) := by
      apply ih later
      intro is
      rw [any_isWord_last run_ne uniform]
      simpa using is
    have matched (is : kind = true) : Pattern.match? left (run ++ rest.flatten) (wholeWord w) =
        if run = w then some w else none := by
      subst is
      exact match?_wholeWord ne word run_ne uniform (before rfl) later.head_flatten
    rw [List.flatten_cons, List.flatMap_cons, renamed]
    by_cases same : run = w
    · subst same
      obtain ⟨c, inside⟩ := List.exists_mem_of_ne_nil run ne
      have is : kind = true := (uniform c inside).symm.trans (word c inside)
      rw [if_pos rfl] at matched ⊢
      rw [replaceFrom_match replacement ne (matched is), next]
    · rw [if_neg same] at matched ⊢
      rw [replaceFrom_run ne word run_ne uniform, next]
      cases kind with
      | false => exact match?_gap ne word run_ne uniform _
      | true => exact matched rfl

theorem replaceAll_wholeWord (ne : w ≠ []) (word : ∀ c ∈ w, isWord c = true) (replacement t : Text) :
    replaceAll (wholeWord w) replacement t = (runs t).flatMap (renamed w replacement) := by
  obtain ⟨kind, alternate⟩ := Text.alternates_runs t
  have outside : kind = true → (none : Option Char).any isWord = false := fun _ => rfl
  rw [replaceAll, ← replaceFrom_wholeWord ne word replacement alternate outside, Text.flatten_runs]

end WholeWord

abbrev bareReturn : Pattern := [.wordBoundary, .literal "return", .blanks, .literal ";"]

/-- What follows the semicolon of a text that starts with blanks, perhaps none, and a semicolon. -/
def pastSemicolon? (t : Text) : Option Text := Text.after? ";" (skipBlanks t)

/-- What is left of the run after a word that returns without a value. -/
def pastReturn? (run gap : Text) : Option Text :=
  if run = "return" then pastSemicolon? gap else none

/-- Runs, with a value given to every return that has none. -/
def finishReturns : List Text → Text
  | run :: gap :: more =>
    match pastReturn? run gap with
    | some rest => "return stringOut.toString();" ++ rest ++ finishReturns more
    | none => run ++ finishReturns (gap :: more)
  | pieces => pieces.flatten

section Returns

variable {left : Option Char}

theorem isWord_semicolon : isWord ';' = false := Text.isWord_ascii (by decide)

theorem return_word : ∀ c ∈ ("return" : Text), isWord c = true :=
  Text.forall_isWord (by decide)

theorem eq_true_of_return {kind : Bool} (uniform : ∀ c ∈ ("return" : Text), isWord c = kind) :
    kind = true :=
  (uniform 'r' (by decide)).symm.trans (return_word 'r' (by decide))

theorem pastReturn?_eq_some {run gap rest : Text} :
    pastReturn? run gap = some rest ↔ run = "return" ∧ pastSemicolon? gap = some rest := by
  rw [pastReturn?]
  by_cases same : run = "return"
  · rw [if_pos same]
    exact ⟨fun past => ⟨same, past⟩, And.right⟩
  · rw [if_neg same]
    exact ⟨fun none => (by cases none), fun past => absurd past.1 same⟩

theorem pastSemicolon?_cons (c : Char) (t : Text) : pastSemicolon? (c :: t) =
    if isBlank c then pastSemicolon? t else if c = ';' then some t else none := by
  by_cases blank : isBlank c
  · simp [pastSemicolon?, skipBlanks, blank]
  · simp [pastSemicolon?, skipBlanks, blank, Text.after?, eq_comm]

theorem pastSemicolon?_eq_some {t rest : Text} (h : pastSemicolon? t = some rest) :
    t = t.takeWhile isBlank ++ (";" ++ rest) := by
  have split : t.takeWhile isBlank ++ skipBlanks t = t := List.takeWhile_append_dropWhile
  rw [← Text.after?_eq_some.1 h, split]

theorem gap_of_pastSemicolon? {gap rest : Text} (uniform : ∀ c ∈ gap, isWord c = false)
    (h : pastSemicolon? gap = some rest) : ∀ c ∈ ';' :: rest, isWord c = false := by
  intro c inside
  apply uniform
  rw [pastSemicolon?_eq_some h]
  exact List.mem_append_right _ inside

theorem stops_of_pastSemicolon? {t rest : Text} (h : pastSemicolon? t = some rest) :
    ∀ c ∈ t.head?, isWord c = false := by
  cases t with
  | nil => simp
  | cons c t =>
    rw [pastSemicolon?_cons] at h
    intro d first
    obtain rfl : c = d := by simpa using first
    split_ifs at h with blank semicolon
    · exact Text.isWord_of_isBlank blank
    · rw [semicolon]
      exact isWord_semicolon

theorem pastSemicolon?_append {gap t : Text} (uniform : ∀ c ∈ gap, isWord c = false)
    (start : ∀ c ∈ t.head?, isWord c = true) :
    pastSemicolon? (gap ++ t) = (pastSemicolon? gap).map (· ++ t) := by
  induction gap with
  | nil =>
    have missed : pastSemicolon? t = none := by
      by_contra found
      obtain ⟨rest, found⟩ := Option.ne_none_iff_exists'.1 found
      cases t with
      | nil => cases found
      | cons c t =>
        have word := start c rfl
        rw [stops_of_pastSemicolon? found c rfl] at word
        cases word
    rw [List.nil_append, missed]
    rfl
  | cons c gap ih =>
    rw [List.cons_append, pastSemicolon?_cons, pastSemicolon?_cons,
      ih (List.forall_mem_cons.1 uniform).2]
    split_ifs <;> rfl

theorem match?_blanks_semicolon (t : Text) : Pattern.match? left t [.blanks, .literal ";"] =
    (pastSemicolon? t).map fun _ => t.takeWhile isBlank ++ ";" := by
  rw [match?_blanks, match?_literal, pastSemicolon?]
  by_cases found : ";" <+: skipBlanks t
  · obtain ⟨rest, split⟩ := found
    rw [← split, if_pos (List.prefix_append _ rest), Text.after?_append]
    rfl
  · have missed : Text.after? ";" (skipBlanks t) = none :=
      Option.not_isSome_iff_eq_none.1 (mt Text.after?_isSome_iff.1 found)
    rw [if_neg found, missed]
    rfl

theorem match?_bareReturn {run t : Text} (run_ne : run ≠ []) (uniform : ∀ c ∈ run, isWord c = true)
    (before : left.any isWord = false) (after : ∀ c ∈ t.head?, isWord c = false) :
    Pattern.match? left (run ++ t) bareReturn =
      (pastReturn? run t).map fun _ => run ++ (t.takeWhile isBlank ++ ";") := by
  rw [match?_wordBoundary, if_pos (wordBoundary_start run_ne uniform before t), pastReturn?]
  by_cases same : run = "return"
  · subst same
    rw [if_pos rfl, match?_literal_append, match?_blanks_semicolon, Option.map_map]
    rfl
  · rw [if_neg same]
    by_cases starts : "return" <+: run ++ t
    · obtain ⟨rest, split⟩ := starts
      rw [← split, match?_literal_append, match?_blanks_semicolon]
      cases found : pastSemicolon? rest with
      | none => rfl
      | some more =>
        -- the word would be the first run, as the run is
        have first := Text.runs_cons (by decide) return_word (stops_of_pastSemicolon? found)
        rw [split, Text.runs_cons run_ne uniform after] at first
        exact absurd (List.cons.inj first).1 same
    · exact match?_literal_none starts

theorem replaceFrom_return (replacement : Text) {t rest : Text} (before : left.any isWord = false)
    (found : pastSemicolon? t = some rest) :
    replaceFrom bareReturn replacement left 0 ("return" ++ t) =
      replacement ++ replaceFrom bareReturn replacement (some ';') 0 rest := by
  let taken : Text := "return" ++ (t.takeWhile isBlank ++ ";")
  have split : "return" ++ t = taken ++ rest := by
    rw [List.append_assoc, List.append_assoc, ← pastSemicolon?_eq_some found]
  have last : taken.getLast?.or left = some ';' := by
    simp only [taken, ← List.append_assoc]
    exact congrArg (Option.or · left) List.getLast?_concat
  have matched : Pattern.match? left (taken ++ rest) bareReturn = some taken := by
    rw [← split, match?_bareReturn (by decide) return_word before (stops_of_pastSemicolon? found),
      pastReturn?, if_pos rfl, found]
    rfl
  rw [split, replaceFrom_match replacement (List.append_ne_nil_of_left_ne_nil (by decide) _) matched,
    last]

theorem pastReturn?_append (run : Text) {gap t : Text} (uniform : ∀ c ∈ gap, isWord c = false)
    (start : ∀ c ∈ t.head?, isWord c = true) :
    pastReturn? run (gap ++ t) = (pastReturn? run gap).map (· ++ t) := by
  rw [pastReturn?, pastReturn?, pastSemicolon?_append uniform start]
  split_ifs <;> rfl

theorem replaceFrom_notReturn (replacement : Text) {kind : Bool} {run t : Text} (run_ne : run ≠ [])
    (uniform : ∀ c ∈ run, isWord c = kind) (before : kind = true → left.any isWord = false)
    (after : ∀ c ∈ t.head?, isWord c = !kind) (missed : kind = true → pastReturn? run t = none) :
    replaceFrom bareReturn replacement left 0 (run ++ t) =
      run ++ replaceFrom bareReturn replacement (run.getLast?.or left) 0 t := by
  apply replaceFrom_run (by decide) return_word run_ne uniform
  cases kind with
  | false => exact match?_gap (by decide) return_word run_ne uniform t
  | true =>
    have matched := match?_bareReturn run_ne uniform (before rfl) after
    rwa [missed rfl] at matched

theorem replaceFrom_bareReturn {kind : Bool} {pieces : List Text} (alternate : Alternates kind pieces)
    (before : kind = true → left.any isWord = false) :
    replaceFrom bareReturn "return stringOut.toString();" left 0 pieces.flatten =
      finishReturns pieces := by
  fun_induction finishReturns pieces generalizing kind left with
  | case1 run gap more rest found ih =>
    obtain ⟨-, uniform, -, gap_uniform, later⟩ := alternate
    obtain ⟨rfl, past⟩ := pastReturn?_eq_some.1 found
    obtain rfl := eq_true_of_return uniform
    have rest_uniform := gap_of_pastSemicolon? gap_uniform past
    have next := pastSemicolon?_append gap_uniform later.head_flatten
    rw [past] at next
    rw [List.flatten_cons, List.flatten_cons, replaceFrom_return _ (before rfl) next,
      replaceFrom_inside (by decide) return_word (List.forall_mem_cons.1 rest_uniform).2 (by simp),
      ih later, List.append_assoc]
    intro _
    rw [← getLast?_cons_or ';' rest left, any_isWord_last (List.cons_ne_nil _ _) rest_uniform]
  | case2 run gap more missed ih =>
    obtain ⟨run_ne, uniform, later⟩ := alternate
    rw [List.flatten_cons, replaceFrom_notReturn _ run_ne uniform before later.head_flatten, ih later]
    · intro is
      rw [any_isWord_last run_ne uniform]
      simpa using is
    · rintro rfl
      obtain ⟨-, gap_uniform, after⟩ := later
      rw [List.flatten_cons, pastReturn?_append run gap_uniform after.head_flatten, missed]
      rfl
  | case3 pieces short =>
    cases pieces with
    | nil => rfl
    | cons run rest =>
      cases rest with
      | nil =>
        obtain ⟨run_ne, uniform, later⟩ := alternate
        have missed : pastReturn? run [] = none := ite_self none
        rw [List.flatten_cons, replaceFrom_notReturn _ run_ne uniform before later.head_flatten
          fun _ => missed]
        rfl
      | cons gap more => exact absurd rfl (short run gap more)

theorem replaceAll_bareReturn (t : Text) :
    replaceAll bareReturn "return stringOut.toString();" t = finishReturns (runs t) := by
  obtain ⟨kind, alternate⟩ := Text.alternates_runs t
  have outside : kind = true → (none : Option Char).any isWord = false := fun _ => rfl
  rw [replaceAll, ← replaceFrom_bareReturn alternate outside, Text.flatten_runs]

end Returns

def setupCall : Text := "PageContextFactory.setPageContext(pageContext);"

/-- The text without a line break in front. -/
def skipBreak (t : Text) : Text := (Text.after? "\n" t).getD t

theorem break_append_skipBreak (t : Text) : (t.take 1).filter (· = '\n') ++ skipBreak t = t := by
  cases t with
  | nil => rfl
  | cons c t =>
    by_cases here : c = '\n'
    · simp [skipBreak, Text.after?, here]
    · simp [skipBreak, Text.after?, here, Ne.symm here]

theorem length_skipBreak_lt {t front rest : Text}
    (found : Text.cutAt? setupCall t = some (front, rest)) : (skipBreak rest).length < t.length := by
  have whole := congrArg List.length (Text.eq_of_cutAt? found)
  have call : setupCall.length = 47 := rfl
  have after := congrArg List.length (break_append_skipBreak rest)
  rw [List.length_append] at after
  rw [List.length_append, List.length_append] at whole
  omega

/-- The text without setup calls and the line break after each of them. A call is the first one after
the call before it. -/
def withoutSetup (t : Text) : Text :=
  match found : Text.cutAt? setupCall t with
  | none => t
  | some (front, rest) =>
    have := length_skipBreak_lt found
    front ++ withoutSetup (skipBreak rest)
termination_by t.length

section Setup

theorem withoutSetup_of_none {t : Text} (h : Text.cutAt? setupCall t = none) : withoutSetup t = t := by
  rw [withoutSetup]
  split
  · rfl
  · next found => simp [h] at found

theorem withoutSetup_of_some {t front rest : Text} (h : Text.cutAt? setupCall t = some (front, rest)) :
    withoutSetup t = front ++ withoutSetup (skipBreak rest) := by
  rw [withoutSetup]
  split
  · next found => simp [h] at found
  · next front' rest' found =>
    rw [h] at found
    cases found
    rfl

theorem cutAt?_call (t : Text) : Text.cutAt? setupCall (setupCall ++ t) = some ([], t) := by
  have starts := Text.after?_append setupCall t
  cases whole : setupCall ++ t with
  | nil => cases whole
  | cons c t' => rw [Text.cutAt?, ← whole, starts]

theorem withoutSetup_call (t : Text) : withoutSetup (setupCall ++ t) = withoutSetup (skipBreak t) := by
  rw [withoutSetup_of_some (cutAt?_call t), List.nil_append]

theorem withoutSetup_cons {c : Char} {t : Text} (other : ¬setupCall <+: c :: t) :
    withoutSetup (c :: t) = c :: withoutSetup t := by
  have missed : Text.after? setupCall (c :: t) = none :=
    Option.not_isSome_iff_eq_none.1 (mt Text.after?_isSome_iff.1 other)
  cases cut : Text.cutAt? setupCall t with
  | none =>
    have later : Text.cutAt? setupCall (c :: t) = none := by
      rw [Text.cutAt?, missed, cut]
      rfl
    rw [withoutSetup_of_none cut, withoutSetup_of_none later]
  | some parts =>
    have later : Text.cutAt? setupCall (c :: t) = some (c :: parts.1, parts.2) := by
      rw [Text.cutAt?, missed, cut]
      rfl
    rw [withoutSetup_of_some cut, withoutSetup_of_some later, List.cons_append]

theorem replaceFrom_setup (left : Option Char) (t : Text) :
    replaceFrom [.literal setupCall, .lineBreak] [] left 0 t = withoutSetup t := by
  induction size : t.length using Nat.strong_induction_on generalizing left t with
  | _ n ih =>
    cases t with
    | nil => exact (withoutSetup_of_none rfl).symm
    | cons c t =>
      by_cases here : setupCall <+: c :: t
      · obtain ⟨rest, split⟩ := here
        let taken := setupCall ++ (rest.take 1).filter (· = '\n')
        have whole : setupCall ++ rest = taken ++ skipBreak rest := by
          rw [List.append_assoc, break_append_skipBreak]
        have matched : Pattern.match? left (taken ++ skipBreak rest) [.literal setupCall, .lineBreak] =
            some taken := by
          rw [← whole, match?_literal_append]
          simp [Pattern.match?, Atom.take?, taken]
        have taken_ne : taken ≠ [] := List.append_ne_nil_of_left_ne_nil (by decide) _
        have shorter : (skipBreak rest).length < n := by
          rw [← size, ← split]
          exact length_skipBreak_lt (cutAt?_call rest)
        rw [← split, withoutSetup_call, whole, replaceFrom_match [] taken_ne matched, List.nil_append,
          ih _ shorter _ _ rfl]
      · have shorter : t.length < n := by
          rw [← size, List.length_cons]
          omega
        rw [replaceFrom_none [] (match?_literal_none here), withoutSetup_cons here,
          ih _ shorter _ _ rfl]

end Setup

theorem servletResponse_word : ∀ c ∈ ("ServletResponse" : Text), isWord c = true :=
  Text.forall_isWord (by decide)

theorem pageContext_word : ∀ c ∈ ("pageContext" : Text), isWord c = true :=
  Text.forall_isWord (by decide)

theorem substitute_declaration (t : Text) : substitute .render .declaration t =
    (runs t).flatMap (renamed "ServletResponse" "HttpServletResponse") :=
  replaceAll_wholeWord (by decide) servletResponse_word "HttpServletResponse" t

theorem substitute_scriptlet (t : Text) :
    substitute .render .scriptlet t = finishReturns (runs t) :=
  replaceAll_bareReturn t

theorem substitute_intake (t : Text) : substitute .intake .scriptlet t =
    (runs (withoutSetup t)).flatMap (renamed "pageContext" "request") := by
  have steps : substitute .intake .scriptlet t =
      renamePageContext.apply (replaceFrom [.literal setupCall, .lineBreak] [] none 0 t) := rfl
  rw [steps, replaceFrom_setup]
  exact replaceAll_wholeWord (by decide) pageContext_word "request" _

/-- Every text is cut into runs in one way, and what is substituted are runs. In a declaration it is
the runs that are the name of the response; in a scriptlet that is written, those that return, with
the blanks and the semicolon behind them; in a scriptlet that is taken in, those that are the name of
the page context, once the setup calls are gone. -/
theorem substitute_by_runs :
    (∀ t pieces, Text.CutIntoRuns t pieces ↔ pieces = runs t) ∧
      (∀ t, substitute .render .declaration t =
        (runs t).flatMap (renamed "ServletResponse" "HttpServletResponse")) ∧
      (∀ t, substitute .render .scriptlet t = finishReturns (runs t)) ∧
      ∀ t, substitute .intake .scriptlet t =
        (runs (withoutSetup t)).flatMap (renamed "pageContext" "request") :=
  ⟨fun _ _ => Text.cutIntoRuns_iff, substitute_declaration, substitute_scriptlet, substitute_intake⟩

end JspEndpoint.Code
