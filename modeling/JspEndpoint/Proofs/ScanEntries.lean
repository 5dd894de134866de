import JspEndpoint.Template.Lexeme

/-!
What stands at each place of a scanned template. The rule is stated without the scanner: the longest
opener decides what is tried, and the first end mark after it where the entry stops. A failed entry
is explained by a second look at its text, through openers in another order; both orders lead to the
longest opener. One text breaks the rule. A comment opener that breaks off after its first dash is
taken for a lone angle, together with its percent sign; the rule would have it open a scriptlet.
-/

namespace JspEndpoint.Template

/-- `k` is a kind with the longest opener among those that the text starts with. -/
def LongestOpener (k : Kind) (t : Text) : Prop :=
  k.opener <+: t ∧ ∀ j : Kind, j.opener <+: t → j.opener.length ≤ k.opener.length

/-- What a character does to the quote that is open. -/
def quoteStep : Option Char → Char → Option Char
  | some q, c => if c = q then none else some q
  | none, c => if c = '"' ∨ c = '\'' then some c else none

/-- The quote that is open after a text, given the one open before it. -/
def quoteAfter (quote : Option Char) (t : Text) : Option Char := t.foldl quoteStep quote

/-- The end mark of a construct stands in `t` between `body` and `rest`, that of a tag outside
quotes. -/
def EndsAt (k : Construct) (t body rest : Text) : Prop :=
  t = body ++ k.closer ++ rest ∧ (k.isBundleTag → quoteAfter none body = none)

def EndsFirstAt (k : Construct) (t body rest : Text) : Prop :=
  EndsAt k t body rest ∧ ∀ body' rest', EndsAt k t body' rest' → body.length ≤ body'.length

/-- What is said of an opener without its end: which end is missing, and of what. -/
def Construct.unclosedMessage (k : Construct) : Text :=
  let what : Text :=
    if k = .comment then "comment"
    else "'" ++ k.opener ++ "'" ++ (if k.isBundleTag then " tag" else " block")
  "unterminated " ++ what ++ ", missing '" ++ k.closer ++ "'"

/-- The opener that an error is about and the end mark that it misses. -/
def LexicalError.marks? : LexicalError → Option (Text × Text)
  | unclosedComment => some (['<', '%', '-', '-'], ['-', '-', '%', '>'])
  | unclosedBlock opener => some (opener, ['%', '>'])
  | unclosedTag opener => some (opener, ['>'])
  | unrecognized => none

/-- The error is about a construct, and says so. -/
structure LexicalError.Names (e : LexicalError) (k : Construct) : Prop where
  marks : e.marks? = some (k.opener, k.closer)
  message : e.message = k.unclosedMessage

/-- The entry, and its text, that the openers and end marks prescribe at the front of `t`. -/
inductive Prescribed (t : Text) : Except LexicalError Kind → Text → Prop
  | markup {run rest : Text} : t = run ++ rest → run ≠ [] → (∀ c ∈ run, c ≠ '<') →
      (rest = [] ∨ rest.head? = some '<') → Prescribed t (.ok .markup) run
  | angle : LongestOpener .angle t → Prescribed t (.ok .angle) ['<']
  | closed {k : Construct} {tail body rest : Text} : LongestOpener (.construct k) t →
      t = k.opener ++ tail → EndsFirstAt k tail body rest →
      Prescribed t (.ok (.construct k)) (k.opener ++ body ++ k.closer)
  | unclosed {k : Construct} {tail : Text} {e : LexicalError} : LongestOpener (.construct k) t →
      t = k.opener ++ tail → (∀ body rest, ¬EndsAt k tail body rest) → e.Names k →
      Prescribed t (.error e) k.opener

/-- A comment opener that goes no further than its first dash. -/
def BreaksOff (t : Text) : Prop := ['<', '%', '-'] <+: t ∧ ¬['<', '%', '-', '-'] <+: t

namespace Construct

theorem cutTag?_cons (quote : Option Char) (c : Char) (t : Text) :
    cutTag? quote (c :: t) =
      if quote = none ∧ c = '>' then some ([], t)
      else (cutTag? (quoteStep quote c) t).map fun (body, rest) => (c :: body, rest) := by
  cases quote <;> simp [cutTag?, quoteStep]

theorem quoteAfter_of_cutTag? {quote : Option Char} {t body rest : Text}
    (h : cutTag? quote t = some (body, rest)) : quoteAfter quote body = none := by
  induction t generalizing quote body with
  | nil => simp [cutTag?] at h
  | cons c t ih =>
    rw [cutTag?_cons] at h
    split at h
    · next here =>
      obtain ⟨rfl, rfl⟩ := by simpa using h
      exact here.1
    · obtain ⟨⟨b, r⟩, hb, he⟩ := Option.map_eq_some_iff.1 h
      obtain ⟨rfl, rfl⟩ := by simpa using he
      have later : quoteAfter (quoteStep quote c) b = none := ih hb
      exact later

theorem cutTag?_of_occurs {quote : Option Char} {body : Text}
    (outside : quoteAfter quote body = none) (after : Text) :
    ∃ front rest, cutTag? quote (body ++ '>' :: after) = some (front, rest) ∧
      front.length ≤ body.length := by
  induction body generalizing quote with
  | nil =>
    have none_open : quote = none := outside
    refine ⟨[], after, ?_, Nat.le_refl _⟩
    simp [cutTag?_cons, none_open]
  | cons c body ih =>
    have later : quoteAfter (quoteStep quote c) body = none := outside
    obtain ⟨front, rest, found, le⟩ := ih later
    simp only [List.cons_append, cutTag?_cons, found]
    split
    · exact ⟨[], _, rfl, Nat.zero_le _⟩
    · exact ⟨c :: front, rest, rfl, Nat.succ_le_succ le⟩

theorem opener_eq_cons (k : Construct) : ∃ t, k.opener = '<' :: t := by
  cases k <;> exact ⟨_, rfl⟩

theorem closer_of_isBundleTag {k : Construct} (h : k.isBundleTag) : k.closer = ['>'] := by
  cases k <;> first | rfl | simp [isBundleTag] at h

theorem endsAt_of_close? {k : Construct} {t body rest : Text} (h : k.close? t = some (body, rest)) :
    EndsAt k t body rest := by
  refine ⟨eq_of_close? h, fun tag => ?_⟩
  rw [close?, if_pos tag] at h
  exact quoteAfter_of_cutTag? h

theorem close?_of_endsAt {k : Construct} {t body rest : Text} (h : EndsAt k t body rest) :
    ∃ front after, k.close? t = some (front, after) ∧ front.length ≤ body.length := by
  obtain ⟨rfl, outside⟩ := h
  unfold close?
  split
  · next tag =>
    rw [closer_of_isBundleTag tag, List.append_assoc]
    exact cutTag?_of_occurs (outside tag) rest
  · exact Text.cutAt?_of_occurs k.closer body rest

theorem endsFirstAt_of_close? {k : Construct} {t body rest : Text}
    (h : k.close? t = some (body, rest)) : EndsFirstAt k t body rest := by
  refine ⟨endsAt_of_close? h, fun body' rest' other => ?_⟩
  obtain ⟨front, after, found, le⟩ := close?_of_endsAt other
  obtain ⟨rfl, rfl⟩ : front = body ∧ after = rest := by simpa [h, eq_comm] using found
  exact le

theorem close?_eq_some_iff {k : Construct} {t body rest : Text} :
    k.close? t = some (body, rest) ↔ EndsFirstAt k t body rest := by
  refine ⟨endsFirstAt_of_close?, fun first => ?_⟩
  obtain ⟨front, after, found, le⟩ := close?_of_endsAt first.1
  have ends : EndsAt k t front after := endsAt_of_close? found
  have lengths : front.length = body.length := Nat.le_antisymm le (first.2 front after ends)
  have same := ends.1.symm.trans first.1.1
  rw [List.append_assoc, List.append_assoc] at same
  obtain ⟨rfl, tails⟩ := List.append_inj same lengths
  rw [found, List.append_cancel_left tails]

theorem close?_eq_none_iff {k : Construct} {t : Text} :
    k.close? t = none ↔ ∀ body rest, ¬EndsAt k t body rest := by
  constructor
  · intro missing body rest ends
    obtain ⟨front, after, found, -⟩ := close?_of_endsAt ends
    rw [missing] at found
    cases found
  · intro never
    rw [Option.eq_none_iff_forall_ne_some]
    intro found closed
    exact never found.1 found.2 (endsAt_of_close? closed)

theorem mem_all (k : Construct) : k ∈ all := by
  cases k <;> decide

theorem opened?_eq_none {t : Text} (h : opened? t = none) (k : Construct) : ¬k.opener <+: t := by
  have missing := List.findSome?_eq_none_iff.1 h k (mem_all k)
  rw [Option.map_eq_none_iff] at missing
  rw [← Text.after?_isSome_iff, missing]
  simp

theorem find?_of_opened? {t rest : Text} {k : Construct} (h : opened? t = some (k, rest)) :
    all.find? (fun j => Text.startsWith t j.opener) = some k := by
  obtain ⟨before, a, after, split, found, earlier⟩ := List.findSome?_eq_some_iff.1 h
  obtain ⟨_, starts, same⟩ := Option.map_eq_some_iff.1 found
  obtain ⟨rfl, rfl⟩ := by simpa using same
  refine List.find?_eq_some_iff_append.2 ⟨by rw [Text.startsWith, starts]; rfl, before, after, split, ?_⟩
  intro j first
  have missing := earlier j first
  rw [Option.map_eq_none_iff] at missing
  rw [Text.startsWith, missing]
  rfl

end Construct

theorem opener_length_pos (k : Construct) : 0 < k.opener.length :=
  List.length_pos_iff.2 (Lexeme.opener_ne_nil k)

/-- Looking openers up in an order in which none starts a later one finds the longest. -/
theorem longestOpener_of_find? {order : List Construct} {t : Text} {k : Construct}
    (ordered : order.Pairwise fun a b => ¬a.opener <+: b.opener) (complete : ∀ j, j ∈ order)
    (h : order.find? (fun j => Text.startsWith t j.opener) = some k) :
    LongestOpener (.construct k) t := by
  obtain ⟨found, before, after, rfl, earlier⟩ := List.find?_eq_some_iff_append.1 h
  have starts : k.opener <+: t := Text.after?_isSome_iff.1 found
  refine ⟨starts, fun j other => ?_⟩
  have pos := opener_length_pos k
  cases j with
  | angle => exact pos
  | markup => exact Nat.zero_le _
  | construct j =>
    rcases List.mem_append.1 (complete j) with first | later
    · have missing := earlier j first
      have seen : Text.startsWith t j.opener = true := Text.after?_isSome_iff.2 other
      rw [seen] at missing
      cases missing
    · rcases List.mem_cons.1 later with rfl | later
      · exact Nat.le_refl _
      · -- a longer opener would start with the one that was found
        have apart := (List.pairwise_cons.1 (List.pairwise_append.1 ordered).2.1).1 j later
        exact Nat.le_of_not_le fun longer =>
          apart (List.prefix_of_prefix_length_le starts other longer)

theorem longestOpener_of_opened? {t rest : Text} {k : Construct}
    (h : Construct.opened? t = some (k, rest)) : LongestOpener (.construct k) t :=
  longestOpener_of_find? (by decide) Construct.mem_all (Construct.find?_of_opened? h)

theorem Kind.mem_all (k : Kind) : k ∈ Kind.all := by
  rcases k with k | _ | _
  · cases k <;> decide
  · decide
  · decide

theorem Kind.eq_of_opener_eq {j k : Kind} (h : j.opener = k.opener) : j = k := by
  have distinct : ∀ j ∈ Kind.all, ∀ k ∈ Kind.all, j.opener = k.opener → j = k := by decide
  exact distinct j (mem_all j) k (mem_all k) h

theorem LongestOpener.unique {j k : Kind} {t : Text} (hj : LongestOpener j t)
    (hk : LongestOpener k t) : j = k := by
  have shorter := hk.2 j hj.1
  have longer := hj.2 k hk.1
  have starts := List.prefix_of_prefix_length_le hj.1 hk.1 shorter
  exact Kind.eq_of_opener_eq (starts.eq_of_length (Nat.le_antisymm shorter longer))

theorem opened?_eq_some_iff {t tail : Text} {k : Construct} :
    Construct.opened? t = some (k, tail) ↔
      LongestOpener (.construct k) t ∧ t = k.opener ++ tail := by
  constructor
  · intro opened
    exact ⟨longestOpener_of_opened? opened, Construct.eq_of_opened? opened⟩
  · rintro ⟨longest, start⟩
    cases opened : Construct.opened? t with
    | none => exact absurd longest.1 (Construct.opened?_eq_none opened k)
    | some found =>
      obtain ⟨j, rest⟩ := found
      cases (longestOpener_of_opened? opened).unique longest
      rw [List.append_cancel_left ((Construct.eq_of_opened? opened).symm.trans start)]

theorem opened?_eq_none_iff {t : Text} :
    Construct.opened? ('<' :: t) = none ↔ LongestOpener .angle ('<' :: t) := by
  constructor
  · intro unopened
    refine ⟨⟨t, rfl⟩, fun j starts => ?_⟩
    cases j with
    | construct k => exact absurd starts (Construct.opened?_eq_none unopened k)
    | angle => exact Nat.le_refl _
    | markup => exact Nat.zero_le _
  · intro longest
    rw [Option.eq_none_iff_forall_ne_some]
    intro found opened
    cases (longestOpener_of_opened? opened).unique longest

namespace LexicalError

theorem mem_openers (k : Construct) : k ∈ openers := by
  cases k <;> decide

theorem find?_openers {t : Text} {k : Construct} (h : LongestOpener (.construct k) t) :
    openers.find? (fun j => Text.startsWith t j.opener) = some k := by
  cases found : openers.find? (fun j => Text.startsWith t j.opener) with
  | none =>
    have missing := List.find?_eq_none.1 found k (mem_openers k)
    exact absurd (Text.after?_isSome_iff.2 h.1) missing
  | some j =>
    have longest := longestOpener_of_find? (by decide) mem_openers found
    cases longest.unique h
    rfl

theorem names_ofSlice {t : Text} {k : Construct} (h : LongestOpener (.construct k) t) :
    (ofSlice t).Names k := by
  rw [ofSlice, find?_openers h]
  cases k <;> exact ⟨rfl, rfl⟩

theorem Names.unique {e e' : LexicalError} {k : Construct} (h : e.Names k) (h' : e'.Names k) :
    e = e' := by
  have same := h.marks.trans h'.marks.symm
  cases e <;> cases e' <;> simp_all [marks?]

theorem names_opener (k : Construct) : (ofSlice k.opener).Names k :=
  names_ofSlice ⟨List.prefix_rfl, fun _ starts => starts.length_le⟩

end LexicalError

theorem not_breaksOff_of_ne {c : Char} {t : Text} (h : c ≠ '<') : ¬BreaksOff (c :: t) := by
  rintro ⟨⟨rest, same⟩, -⟩
  exact h (List.cons.inj same).1.symm

theorem breaksOff_iff_of_opened? {t tail : Text} {k : Construct}
    (h : Construct.opened? t = some (k, tail)) :
    BreaksOff t ↔ k = .scriptlet ∧ tail.head? = some '-' := by
  have longest := (longestOpener_of_opened? h).2
  rw [Construct.eq_of_opened? h] at longest ⊢
  constructor
  · rintro ⟨⟨more, same⟩, other⟩
    cases k with
    | comment => exact absurd ⟨tail, rfl⟩ other
    | scriptlet =>
      have dash : '-' :: more = tail := by simpa [Construct.opener] using same
      exact ⟨rfl, by simp [← dash]⟩
    | _ => simp [Construct.opener] at same
  · rintro ⟨rfl, dash⟩
    obtain ⟨more, rfl⟩ := List.head?_eq_some_iff.1 dash
    refine ⟨⟨more, rfl⟩, fun comment => ?_⟩
    exact absurd (longest (.construct .comment) comment) (by decide)

theorem next_of_opened {t tail : Text} {k : Construct}
    (opened : Construct.opened? ('<' :: t) = some (k, tail)) (whole : ¬BreaksOff ('<' :: t)) :
    Lexeme.next '<' t = match k.close? tail with
      | some (body, rest) => (.construct k body, rest)
      | none => (.unclosed k, tail) := by
  rw [Lexeme.next, if_pos rfl]
  split
  · next unopened => rw [unopened] at opened; cases opened
  · next dashed => exact absurd ((breaksOff_iff_of_opened? dashed).2 ⟨rfl, rfl⟩) whole
  · next found =>
    rw [found] at opened
    cases opened
    rfl

theorem exists_of_mem_place_scan {start : Nat} {source : Text} {p : Placed}
    (h : p ∈ place start (scan source)) :
    ∃ (before : Text) (c : Char) (t : Text), source = before ++ c :: t ∧
      p.start = start + before.byteLength ∧ p.lexeme = (Lexeme.next c t).1 := by
  fun_induction scan source generalizing start with
  | case1 => simp [place] at h
  | case2 c t ih =>
    rcases List.mem_cons.1 h with rfl | later
    · exact ⟨[], c, t, rfl, rfl, rfl⟩
    · obtain ⟨before, d, u, same, offset, lexeme⟩ := ih later
      refine ⟨(Lexeme.next c t).1.text ++ before, d, u, ?_, ?_, lexeme⟩
      · rw [List.append_assoc, ← same, Lexeme.next_text]
      · rw [offset, Text.byteLength_append, Nat.add_assoc]

theorem next_of_breaksOff {c : Char} {t : Text} (h : BreaksOff (c :: t)) :
    (Lexeme.next c t).1 = .angle ['<', '%'] := by
  have angle : c = '<' := by
    by_cases same : c = '<'
    · exact same
    · exact absurd h (not_breaksOff_of_ne same)
  subst angle
  have scriptlet : Construct.scriptlet.opener <+: '<' :: t := List.IsPrefix.trans ⟨['-'], rfl⟩ h.1
  cases opened : Construct.opened? ('<' :: t) with
  | none => exact absurd scriptlet (Construct.opened?_eq_none opened _)
  | some found =>
    obtain ⟨k, tail⟩ := found
    obtain ⟨rfl, dash⟩ := (breaksOff_iff_of_opened? opened).1 h
    obtain ⟨more, rfl⟩ := List.head?_eq_some_iff.1 dash
    simp [Lexeme.next, opened]

theorem markup_prescribed {c : Char} {t : Text} (h : c ≠ '<') :
    Prescribed (c :: t) (.ok .markup) (c :: t.takeWhile Lexeme.notAngle) := by
  have split : c :: t = (c :: t.takeWhile Lexeme.notAngle) ++ t.dropWhile Lexeme.notAngle := by
    rw [List.cons_append, List.takeWhile_append_dropWhile]
  refine .markup split (List.cons_ne_nil _ _) ?_ ?_
  · intro d hd
    rcases List.mem_cons.1 hd with rfl | later
    · exact h
    · simpa [Lexeme.notAngle] using List.all_eq_true.1 List.all_takeWhile d later
  · have stop := List.head?_dropWhile_not Lexeme.notAngle t
    cases rest : t.dropWhile Lexeme.notAngle with
    | nil => exact .inl rfl
    | cons d more =>
      rw [rest] at stop
      exact .inr (by simpa [Lexeme.notAngle] using stop)

theorem run_eq_takeWhile {run rest : Text} (inside : ∀ c ∈ run, c ≠ '<')
    (stop : rest = [] ∨ rest.head? = some '<') : (run ++ rest).takeWhile Lexeme.notAngle = run := by
  have ends : rest.takeWhile Lexeme.notAngle = [] := by
    rcases stop with rfl | angle
    · rfl
    · obtain ⟨more, rfl⟩ := List.head?_eq_some_iff.1 angle
      rfl
  have all : ∀ c ∈ run, Lexeme.notAngle c = true := fun c hc => by
    simpa [Lexeme.notAngle] using inside c hc
  rw [List.takeWhile_append_of_pos all, ends, List.append_nil]

theorem next_prescribed {c : Char} {t : Text} (whole : ¬BreaksOff (c :: t)) :
    Prescribed (c :: t) (Lexeme.next c t).1.kind (Lexeme.next c t).1.text := by
  by_cases angle : c = '<'
  · subst angle
    cases opened : Construct.opened? ('<' :: t) with
    | none =>
      have lone : Lexeme.next '<' t = (.angle ['<'], t) := by simp [Lexeme.next, opened]
      rw [lone]
      exact .angle (opened?_eq_none_iff.1 opened)
    | some found =>
      obtain ⟨longest, start⟩ := opened?_eq_some_iff.1 opened
      rw [next_of_opened opened whole]
      split
      · next closed => exact .closed longest start (Construct.close?_eq_some_iff.1 closed)
      · next missing =>
        exact .unclosed longest start (Construct.close?_eq_none_iff.1 missing)
          (LexicalError.names_opener _)
  · rw [Lexeme.next, if_neg angle]
    exact markup_prescribed angle

theorem eq_angle_of_longestOpener {c : Char} {t : Text} {k : Kind} (h : LongestOpener k (c :: t))
    (other : k ≠ .markup) : c = '<' := by
  obtain ⟨tail, same⟩ := h.1
  cases k with
  | construct k =>
    obtain ⟨u, opener⟩ := k.opener_eq_cons
    rw [Kind.opener, opener] at same
    exact (List.cons.inj same).1.symm
  | angle => exact (List.cons.inj same).1.symm
  | markup => exact absurd rfl other

theorem next_of_prescribed {c : Char} {t text : Text} {entry : Except LexicalError Kind}
    (whole : ¬BreaksOff (c :: t)) (h : Prescribed (c :: t) entry text) :
    entry = (Lexeme.next c t).1.kind ∧ text = (Lexeme.next c t).1.text := by
  -- each rule says what the three tests of the scanner answer: opener, end mark, first character
  cases h with
  | markup same ne inside stop =>
    have run := run_eq_takeWhile inside stop
    rw [← same] at run
    obtain ⟨d, more, rfl⟩ := List.exists_cons_of_ne_nil ne
    have other : c ≠ '<' := by
      rw [(List.cons.inj same).1]
      exact inside d List.mem_cons_self
    rw [Lexeme.next, if_neg other, ← run]
    exact ⟨rfl, List.takeWhile_cons_of_pos (by simp [Lexeme.notAngle, other])⟩
  | angle longest =>
    obtain rfl := eq_angle_of_longestOpener longest (by simp)
    have unopened := opened?_eq_none_iff.2 longest
    simp [Lexeme.next, unopened, Lexeme.kind, Lexeme.text]
  | closed longest start first =>
    obtain rfl := eq_angle_of_longestOpener longest (by simp)
    have opened := opened?_eq_some_iff.2 ⟨longest, start⟩
    rw [next_of_opened opened whole, Construct.close?_eq_some_iff.2 first]
    exact ⟨rfl, rfl⟩
  | @unclosed k _ e longest start missing names =>
    obtain rfl := eq_angle_of_longestOpener longest (by simp)
    have opened := opened?_eq_some_iff.2 ⟨longest, start⟩
    rw [next_of_opened opened whole, Construct.close?_eq_none_iff.2 missing]
    exact ⟨congrArg Except.error (names.unique (LexicalError.names_opener k)), rfl⟩

/-- Every entry is the one that the openers and end marks prescribe where it starts, except where a
comment opener breaks off. -/
theorem scan_entries (source : Text) (p : Placed) (h : p ∈ place 0 (scan source)) :
    ∃ before t : Text, source = before ++ t ∧ before.byteLength = p.start ∧
      (¬BreaksOff t → ∀ entry text,
        Prescribed t entry text ↔ entry = p.lexeme.kind ∧ text = p.lexeme.text) ∧
      (BreaksOff t → p.lexeme = .angle ['<', '%'] ∧
        ¬Prescribed t p.lexeme.kind p.lexeme.text) := by
  obtain ⟨before, c, t, same, offset, lexeme⟩ := exists_of_mem_place_scan h
  refine ⟨before, c :: t, same, by omega, fun whole entry text => ?_, fun broken => ?_⟩
  · rw [lexeme]
    constructor
    · exact next_of_prescribed whole
    · rintro ⟨rfl, rfl⟩
      exact next_prescribed whole
  · rw [lexeme, next_of_breaksOff broken]
    exact ⟨rfl, fun prescribed => by cases prescribed⟩

theorem scan_entries_quoted_mark :
    let source : Text := "a<fmt:message key='>'/>b"
    let p : Placed := ⟨1, .construct .bundleMessage " key='>'/"⟩
    p ∈ place 0 (scan source) ∧
      ∃ before t : Text, source = before ++ t ∧ before.byteLength = p.start ∧
        (¬BreaksOff t → ∀ entry text,
          Prescribed t entry text ↔ entry = p.lexeme.kind ∧ text = p.lexeme.text) ∧
        (BreaksOff t → p.lexeme = .angle ['<', '%'] ∧
          ¬Prescribed t p.lexeme.kind p.lexeme.text) := by
  intro source p
  have scanned : p ∈ place 0 (scan source) := by decide +kernel
  exact ⟨scanned, scan_entries source p scanned⟩

/-- The text is a closed scriptlet by the openers and end marks, and scanned as a lone angle that is
two characters wide. -/
theorem scan_breaks_off :
    let source : Text := ['<', '%', '-', ' ', 'x', ' ', '%', '>']
    place 0 (scan source) = [⟨0, .angle ['<', '%']⟩, ⟨2, .markup ['-', ' ', 'x', ' ', '%', '>']⟩] ∧
      Prescribed source (.ok (.construct .scriptlet)) source ∧
      ¬Prescribed source (.ok .angle) ['<', '%'] := by
  refine ⟨by decide +kernel, ?_, fun prescribed => by cases prescribed⟩
  have opened : Construct.opened? ['<', '%', '-', ' ', 'x', ' ', '%', '>'] =
      some (.scriptlet, ['-', ' ', 'x', ' ', '%', '>']) := rfl
  have closed : Construct.scriptlet.close? ['-', ' ', 'x', ' ', '%', '>'] =
      some (['-', ' ', 'x', ' '], []) := rfl
  obtain ⟨longest, start⟩ := opened?_eq_some_iff.1 opened
  exact .closed longest start (Construct.close?_eq_some_iff.1 closed)

end JspEndpoint.Template
