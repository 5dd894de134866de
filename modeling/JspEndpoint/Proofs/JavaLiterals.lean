import JspEndpoint.Decimal.Basic
import JspEndpoint.Endpoint.Part
import Mathlib.Tactic.SplitIfs

/-!
String literals, read as Java reads them. First every Unicode escape is replaced by its character; a
backslash starts one only if an even number of backslashes stands right before it. Then the escapes of
one letter are interpreted. Escaped text goes through both phases and comes out as it was: the parity
is even before each of its characters, so a `u` of the text never makes an escape of the backslash
before it, and a code of a control always does.
-/

namespace JspEndpoint.Code

/-- The character whose code a text starts with, in four hexadecimal digits, and what follows it.
Halves of a pair of surrogates are no characters. -/
def codedChar? (t : Text) : Option (Char × Text) :=
  match digits? 16 (t.take 4) with
  | some n => if 4 ≤ t.length ∧ n.isValidChar then some (Char.ofNat n, t.drop 4) else none
  | none => none

/-- What a Unicode escape stands for, and what follows it, given the text after its backslash. The
letter may be repeated. -/
def unicodeEscape? (t : Text) : Option (Char × Text) :=
  if t.head? = some 'u' then codedChar? (t.dropWhile (· = 'u')) else none

theorem codedChar?_eq_some {t rest : Text} {c : Char} (h : codedChar? t = some (c, rest)) :
    4 ≤ t.length ∧ rest = t.drop 4 := by
  rw [codedChar?] at h
  split at h
  · split_ifs at h with whole
    exact ⟨whole.1, (Prod.mk.inj (Option.some.inj h)).2.symm⟩
  · cases h

theorem length_of_unicodeEscape? {t rest : Text} {c : Char} (h : unicodeEscape? t = some (c, rest)) :
    rest.length < t.length := by
  rw [unicodeEscape?] at h
  split_ifs at h with starts
  obtain ⟨four, rfl⟩ := codedChar?_eq_some h
  have shorter := (List.dropWhile_sublist (fun c : Char => decide (c = 'u')) (l := t)).length_le
  rw [List.length_drop]
  omega

/-- The first phase, after `before` backslashes that stand right in front of the text. -/
def unicodePhase (before : Nat) (t : Text) : Text :=
  match t with
  | [] => []
  | c :: t =>
    if c = '\\' then
      if before % 2 = 0 then
        match found : unicodeEscape? t with
        | some (d, rest) =>
          have := length_of_unicodeEscape? found
          d :: unicodePhase 0 rest
        | none => c :: unicodePhase (before + 1) t
      else c :: unicodePhase (before + 1) t
    else c :: unicodePhase 0 t
termination_by t.length

/-- The characters after a backslash, with those that they stand for. Octal codes are not read. -/
def letterEscapes : List (Char × Char) :=
  [('"', '"'), ('\\', '\\'), ('n', '\n'), ('r', '\r'), ('t', '\t'), ('b', '\x08'), ('f', '\x0c')]

/-- The second phase inside a literal: its value, and what follows its closing quote. -/
def stringBody? : Text → Option (Text × Text)
  | [] => none
  | c :: t =>
    if c = '"' then some ([], t)
    else if c = '\n' ∨ c = '\r' then none
    else if c = '\\' then
      match t with
      | [] => none
      | letter :: t =>
        match letterEscapes.lookup letter with
        | some d => (stringBody? t).map fun (value, rest) => (d :: value, rest)
        | none => none
    else (stringBody? t).map fun (value, rest) => (c :: value, rest)

/-- A string literal in front of a text: its value, and what follows it. -/
def stringLiteral? : Text → Option (Text × Text)
  | [] => none
  | c :: t => if c = '"' then stringBody? t else none

section Phases

theorem unicodePhase_plain {c : Char} (plain : c ≠ '\\') (before : Nat) (t : Text) :
    unicodePhase before (c :: t) = c :: unicodePhase 0 t := by
  rw [unicodePhase, if_neg plain]

theorem unicodePhase_backslash {before : Nat} {t : Text}
    (missed : before % 2 = 0 → unicodeEscape? t = none) :
    unicodePhase before ('\\' :: t) = '\\' :: unicodePhase (before + 1) t := by
  rw [unicodePhase, if_pos rfl]
  split
  · next even =>
    split
    · next found => simp [missed even] at found
    · rfl
  · rfl

theorem unicodePhase_found {before : Nat} (even : before % 2 = 0) {t rest : Text} {c : Char}
    (found : unicodeEscape? t = some (c, rest)) :
    unicodePhase before ('\\' :: t) = c :: unicodePhase 0 rest := by
  rw [unicodePhase, if_pos rfl, if_pos even]
  split
  · next d rest' other =>
    rw [found] at other
    cases other
    rfl
  · next missed => simp [found] at missed

-- the second of two backslashes starts no escape, the third does
example : unicodePhase 0 "\\u0041 \\\\u0041 \\\\\\u0041" = "A \\\\u0041 \\\\A" := by cbv

theorem unicodeEscape?_of_ne {c : Char} (other : c ≠ 'u') (t : Text) :
    unicodeEscape? (c :: t) = none := by
  rw [unicodeEscape?, List.head?_cons, if_neg (by simpa using other)]

theorem unicodeEscape?_hex {n : Nat} (small : n < 0x20) (t : Text) :
    unicodeEscape? ('u' :: (Text.hex 4 n ++ t)) = some (Char.ofNat n, t) := by
  have four : (Text.hex 4 n).length = 4 :=
    Text.length_hex (by decide) (Nat.lt_trans small (by decide))
  have zero : Text.hex 4 n = '0' :: Text.hex 3 n :=
    Text.hex_succ (by decide) (Nat.lt_trans small (by decide))
  have valid : n.isValidChar := .inl (by omega)
  have digits : ('u' :: (Text.hex 4 n ++ t)).dropWhile (· = 'u') = Text.hex 4 n ++ t := by
    rw [zero]
    simp
  have whole : 4 ≤ (Text.hex 4 n ++ t).length := by
    rw [List.length_append, four]
    omega
  rw [unicodeEscape?, List.head?_cons, if_pos rfl, digits, codedChar?, List.take_left' four,
    digits?_hex]
  dsimp only
  rw [if_pos ⟨whole, valid⟩, List.drop_left' four]

theorem codedChar?_quote (front back : Text) :
    codedChar? (front ++ '"' :: back) =
      (codedChar? front).map fun (c, rest) => (c, rest ++ '"' :: back) := by
  by_cases four : 4 ≤ front.length
  · have longer : 4 ≤ (front ++ '"' :: back).length := by
      rw [List.length_append]
      omega
    rw [codedChar?, codedChar?, List.take_append_of_le_length four, List.drop_append_of_le_length four]
    cases digits? 16 (front.take 4) with
    | none => rfl
    | some n =>
      simp only [four, longer, true_and]
      split_ifs <;> rfl
  · have short : codedChar? front = none := by
      rw [codedChar?]
      split
      · exact if_neg fun whole => four whole.1
      · rfl
    have quoted : '"' ∈ (front ++ '"' :: back).take 4 := by
      obtain ⟨k, more⟩ : ∃ k, 4 - front.length = k + 1 := ⟨3 - front.length, by omega⟩
      rw [List.take_append, more, List.take_succ_cons]
      exact List.mem_append_right _ List.mem_cons_self
    rw [short, codedChar?, digits?_of_mem quoted rfl]
    rfl

theorem unicodeEscape?_quote (front back : Text) :
    unicodeEscape? (front ++ '"' :: back) =
      (unicodeEscape? front).map fun (c, rest) => (c, rest ++ '"' :: back) := by
  cases front with
  | nil => rfl
  | cons c front =>
    have letters : ((c :: front) ++ '"' :: back).dropWhile (· = 'u') =
        (c :: front).dropWhile (· = 'u') ++ '"' :: back := by
      rw [List.dropWhile_append]
      split
      · next all => simp [List.isEmpty_iff.1 all]
      · rfl
    rw [unicodeEscape?, unicodeEscape?, letters, codedChar?_quote, List.cons_append, List.head?_cons,
      List.head?_cons]
    split_ifs <;> rfl

theorem unicodePhase_quote (before : Nat) (front back : Text) :
    unicodePhase before (front ++ '"' :: back) =
      unicodePhase before front ++ '"' :: unicodePhase 0 back := by
  -- A quote is no part of an escape: what stands before it and after it is translated apart.
  fun_induction unicodePhase before front with
  | case1 => exact unicodePhase_plain (by decide) _ _
  | case2 before t even d rest found shorter ih =>
    have past : unicodeEscape? (t ++ '"' :: back) = some (d, rest ++ '"' :: back) := by
      rw [unicodeEscape?_quote, found]
      rfl
    rw [List.cons_append, unicodePhase_found even past, ih, List.cons_append]
  | case3 before t even missed ih =>
    have past : unicodeEscape? (t ++ '"' :: back) = none := by
      rw [unicodeEscape?_quote, missed]
      rfl
    rw [List.cons_append, unicodePhase_backslash fun _ => past, ih, List.cons_append]
  | case4 before t odd ih =>
    rw [List.cons_append, unicodePhase_backslash fun even => absurd even odd, ih, List.cons_append]
  | case5 before c t plain ih => rw [List.cons_append, unicodePhase_plain plain, ih, List.cons_append]

theorem stringBody?_plain {c : Char} (quote : c ≠ '"') (backslash : c ≠ '\\') (feed : c ≠ '\n')
    (return_ : c ≠ '\r') (t : Text) :
    stringBody? (c :: t) = (stringBody? t).map fun (value, rest) => (c :: value, rest) := by
  rw [stringBody?.eq_def]
  simp only [if_neg quote, if_neg backslash, feed, return_, or_self, if_false]

theorem stringBody?_letter {letter c : Char} (known : letterEscapes.lookup letter = some c)
    (t : Text) : stringBody? ('\\' :: letter :: t) =
      (stringBody? t).map fun (value, rest) => (c :: value, rest) := by
  rw [stringBody?]
  simp [known]

end Phases

theorem escapeChar_cases (c : Char) :
    (∃ letter, letter ≠ 'u' ∧ letterEscapes.lookup letter = some c ∧ escapeChar c = ['\\', letter]) ∨
    (c ≠ '"' ∧ c ≠ '\\' ∧ c ≠ '\n' ∧ c ≠ '\r' ∧
      (c.toNat < 0x20 ∧ escapeChar c = '\\' :: 'u' :: Text.hex 4 c.toNat ∨ escapeChar c = [c])) := by
  rw [escapeChar]
  split_ifs with quote backslash feed back tab control
  · exact .inl ⟨'"', by decide, by rw [quote]; rfl, rfl⟩
  · exact .inl ⟨'\\', by decide, by rw [backslash]; rfl, rfl⟩
  · exact .inl ⟨'n', by decide, by rw [feed]; rfl, rfl⟩
  · exact .inl ⟨'r', by decide, by rw [back]; rfl, rfl⟩
  · exact .inl ⟨'t', by decide, by rw [tab]; rfl, rfl⟩
  · exact .inr ⟨quote, backslash, feed, back, .inl ⟨control, rfl⟩⟩
  · exact .inr ⟨quote, backslash, feed, back, .inr rfl⟩

/-- The backslashes that a character leaves in front of the next one are even in number, so no escape
of the next one is spoilt. -/
theorem unicodePhase_escapeChar (c : Char) {before : Nat} (even : before % 2 = 0) :
    ∃ piece after, after % 2 = 0 ∧
      (∀ t, unicodePhase before (escapeChar c ++ t) = piece ++ unicodePhase after t) ∧
      ∀ t, stringBody? (piece ++ t) = (stringBody? t).map fun (value, rest) => (c :: value, rest) := by
  rcases escapeChar_cases c with
    ⟨letter, other, known, same⟩ | ⟨quote, backslash, feed, back, ⟨control, same⟩ | same⟩
  · have first (t : Text) : unicodePhase before ('\\' :: letter :: t) =
        '\\' :: unicodePhase (before + 1) (letter :: t) :=
      unicodePhase_backslash fun _ => unicodeEscape?_of_ne other t
    by_cases pair : letter = '\\'
    · subst pair
      refine ⟨['\\', '\\'], before + 2, by omega, fun t => ?_, stringBody?_letter known⟩
      rw [same]
      exact (first t).trans (congrArg _ (unicodePhase_backslash fun odd => by omega))
    · refine ⟨['\\', letter], 0, rfl, fun t => ?_, stringBody?_letter known⟩
      rw [same]
      exact (first t).trans (congrArg _ (unicodePhase_plain pair _ t))
  · refine ⟨[c], 0, rfl, fun t => ?_, stringBody?_plain quote backslash feed back⟩
    rw [same]
    have code := unicodeEscape?_hex control t
    rw [Char.ofNat_toNat] at code
    exact unicodePhase_found even code
  · refine ⟨[c], 0, rfl, fun t => ?_, stringBody?_plain quote backslash feed back⟩
    rw [same]
    exact unicodePhase_plain backslash before t

theorem unicodePhase_escape (s : Text) {before : Nat} (even : before % 2 = 0) :
    ∃ body, (∀ back, unicodePhase before (escape s ++ '"' :: back) =
        body ++ '"' :: unicodePhase 0 back) ∧
      ∀ rest, stringBody? (body ++ '"' :: rest) = some (s, rest) := by
  induction s generalizing before with
  | nil => exact ⟨[], fun back => unicodePhase_plain (by decide) _ _, fun rest => by
      rw [List.nil_append, stringBody?.eq_def]
      exact if_pos rfl⟩
  | cons c s ih =>
    obtain ⟨piece, after, even', step, reads⟩ := unicodePhase_escapeChar c even
    obtain ⟨body, run, value⟩ := ih even'
    refine ⟨piece ++ body, fun back => ?_, fun rest => ?_⟩
    · rw [escape, List.flatMap_cons, List.append_assoc, step, List.append_assoc]
      exact congrArg _ (run back)
    · rw [List.append_assoc, reads, value]
      rfl

theorem unicodePhase_literal (s : Text) :
    ∃ read, (∀ before front back, unicodePhase before (front ++ literal s ++ back) =
        unicodePhase before front ++ read ++ unicodePhase 0 back) ∧
      ∀ rest, stringLiteral? (read ++ rest) = some (s, rest) := by
  obtain ⟨body, run, value⟩ := unicodePhase_escape s (Nat.zero_mod 2)
  refine ⟨'"' :: body ++ ['"'], fun before front back => ?_, fun rest => ?_⟩
  · have apart : front ++ literal s ++ back = front ++ '"' :: (escape s ++ '"' :: back) := by
      simp [literal]
    rw [apart, unicodePhase_quote, run]
    simp
  · rw [List.append_assoc, List.cons_append, stringLiteral?, if_pos rfl]
    exact value rest

section Lines

def BreakFree (t : Text) : Prop := ∀ c ∈ t, c ≠ '\n' ∧ c ≠ '\r'

instance (t : Text) : Decidable (BreakFree t) := List.decidableBAll (fun c => c ≠ '\n' ∧ c ≠ '\r') t

theorem breakFree_append {s t : Text} : BreakFree (s ++ t) ↔ BreakFree s ∧ BreakFree t :=
  List.forall_mem_append

theorem breakFree_cons {c : Char} {t : Text} :
    BreakFree (c :: t) ↔ (c ≠ '\n' ∧ c ≠ '\r') ∧ BreakFree t :=
  List.forall_mem_cons

theorem ne_break_of_lookup {letter c : Char} (known : letterEscapes.lookup letter = some c) :
    letter ≠ '\n' ∧ letter ≠ '\r' := by
  constructor <;> rintro rfl <;> cases known

theorem breakFree_hex (width n : Nat) : BreakFree (Text.hex width n) := by
  intro c mem
  -- The number is read back, so that every character is a digit, which a break is not.
  have digit : digitValue? 16 c ≠ none := by
    intro strange
    have unread := digits?_of_mem mem strange
    rw [digits?_hex] at unread
    cases unread
  constructor <;> rintro rfl <;> exact digit rfl

theorem breakFree_escapeChar (c : Char) : BreakFree (escapeChar c) := by
  have empty : BreakFree [] := List.forall_mem_nil _
  rcases escapeChar_cases c with
    ⟨letter, -, known, same⟩ | ⟨-, -, feed, back, ⟨-, same⟩ | same⟩ <;> rw [same]
  · exact breakFree_cons.2 ⟨by decide, breakFree_cons.2 ⟨ne_break_of_lookup known, empty⟩⟩
  · exact breakFree_cons.2 ⟨by decide, breakFree_cons.2 ⟨by decide, breakFree_hex 4 _⟩⟩
  · exact breakFree_cons.2 ⟨⟨feed, back⟩, empty⟩

theorem breakFree_literal (s : Text) : BreakFree (literal s) := by
  have quote : BreakFree ['"'] := by decide
  refine breakFree_append.2 ⟨breakFree_append.2 ⟨quote, fun c mem => ?_⟩, quote⟩
  obtain ⟨d, -, late⟩ := List.mem_flatMap.1 mem
  exact breakFree_escapeChar d c late

theorem breakFree_of_stringBody? {t value rest : Text} (h : stringBody? t = some (value, rest)) :
    ∃ body, t = body ++ '"' :: rest ∧ BreakFree body := by
  fun_induction stringBody? t generalizing value with
  | case1 => cases h
  | case2 t =>
    cases h
    exact ⟨[], rfl, List.forall_mem_nil _⟩
  | case3 => cases h
  | case4 => cases h
  | case5 letter t d known _ _ ih =>
    obtain ⟨⟨value, rest⟩, read, same⟩ := Option.map_eq_some_iff.1 h
    cases same
    obtain ⟨body, rfl, free⟩ := ih read
    refine ⟨'\\' :: letter :: body, rfl, ?_⟩
    exact breakFree_cons.2 ⟨by decide, breakFree_cons.2 ⟨ne_break_of_lookup known, free⟩⟩
  | case6 => cases h
  | case7 c t _ unbroken _ ih =>
    obtain ⟨⟨value, rest⟩, read, same⟩ := Option.map_eq_some_iff.1 h
    cases same
    obtain ⟨body, rfl, free⟩ := ih read
    exact ⟨c :: body, rfl, breakFree_cons.2 ⟨not_or.1 unbroken, free⟩⟩

theorem breakFree_of_stringLiteral? {t value : Text} (h : stringLiteral? t = some (value, [])) :
    BreakFree t := by
  fun_cases stringLiteral? t with
  | case1 => cases h
  | case2 t =>
    rw [stringLiteral?, if_pos rfl] at h
    obtain ⟨body, rfl, free⟩ := breakFree_of_stringBody? h
    exact breakFree_cons.2 ⟨by decide, breakFree_append.2 ⟨free, by decide⟩⟩
  | case3 c t other =>
    rw [stringLiteral?, if_neg other] at h
    cases h

end Lines

end JspEndpoint.Code

namespace JspEndpoint.Endpoint

open Code

/-- Between `front` and `back` the code has one string literal, and its value is `value`. The first
phase leaves the three apart, and the second ends the literal where `back` begins. -/
def HoldsLiteral (code front value back : Text) : Prop :=
  ∃ written read, code = front ++ written ++ back ∧
    unicodePhase 0 code = unicodePhase 0 front ++ read ++ unicodePhase 0 back ∧
    stringLiteral? (read ++ unicodePhase 0 back) = some (value, unicodePhase 0 back)

/-- A single line, with the break that ends it. -/
def OneLine (t : Text) : Prop := ∃ line, t = line ++ ['\n'] ∧ BreakFree line

theorem holdsLiteral {part front value back : Text} (shape : part = front ++ literal value ++ back)
    (above below : Text) :
    HoldsLiteral (above ++ part ++ below) (above ++ front) value (back ++ below) := by
  obtain ⟨read, run, reads⟩ := unicodePhase_literal value
  have same : above ++ part ++ below = above ++ front ++ literal value ++ (back ++ below) := by
    simp only [shape, List.append_assoc]
  exact ⟨literal value, read, same, same ▸ run 0 (above ++ front) (back ++ below), reads _⟩

theorem oneLine_call {front : Text} (free : BreakFree front) (value : Text) :
    OneLine (front ++ literal value ++ ");\n") := by
  refine ⟨front ++ literal value ++ ");", by simp, ?_⟩
  exact breakFree_append.2 ⟨breakFree_append.2 ⟨free, breakFree_literal value⟩, by decide⟩

/-- Reading undoes escaping: the two phases make of the literal of a text one literal whose value is
that text. So what a class prints, and the keys and the names of bundles in it, are those of the page,
whatever code stands around them; and a print or a load is one line. -/
theorem literals_denote :
    (∀ s, stringLiteral? (unicodePhase 0 (literal s)) = some (s, []) ∧
      BreakFree (literal s) ∧ BreakFree (unicodePhase 0 (literal s))) ∧
    (∀ content above below,
      HoldsLiteral (above ++ (Part.markup content).render ++ below)
        (above ++ "\t\tout.print(") content (");\n" ++ below)) ∧
    (∀ key var scope, ∃ publication, ∀ above below,
      HoldsLiteral (above ++ (Part.bundle (.lookup key var scope)).render ++ below)
        (above ++ ("\t\tString " ++ var ++ " = bundle.getString(")) key
        (");\n" ++ publication ++ below)) ∧
    (∀ basename declares above below,
      HoldsLiteral (above ++ (Part.bundle (.load basename declares)).render ++ below)
        (above ++ ("\t\t" ++ (if declares then "ResourceBundle bundle" else "bundle") ++
          " = ResourceBundle.getBundle(")) basename (");\n" ++ below)) ∧
    (∀ content, OneLine (Part.markup content).render) ∧
    ∀ basename declares, OneLine (Part.bundle (.load basename declares)).render := by
  refine ⟨fun s => ?_, fun content => holdsLiteral rfl, fun key var scope => ?_,
    fun basename declares => holdsLiteral rfl, fun content => oneLine_call (by decide) content,
    fun basename declares => ?_⟩
  · obtain ⟨read, run, reads⟩ := unicodePhase_literal s
    have whole : unicodePhase 0 (literal s) = read := by
      simpa [unicodePhase] using run 0 [] []
    have value : stringLiteral? (unicodePhase 0 (literal s)) = some (s, []) := by
      simpa [whole] using reads []
    exact ⟨value, breakFree_literal s, breakFree_of_stringLiteral? value⟩
  · exact ⟨_, holdsLiteral (List.append_assoc _ _ _)⟩
  · cases declares
    · exact oneLine_call (by decide) basename
    · exact oneLine_call (by decide) basename

end JspEndpoint.Endpoint
