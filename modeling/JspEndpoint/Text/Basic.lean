/-!
Text as a list of characters. Sizes and offsets are counted in UTF-8 bytes, indices in characters.
Cuts are stated by what they cut: a text is always the concatenation of the pieces it is cut into.
-/

namespace JspEndpoint

abbrev Text := List Char

instance : Coe String Text := ⟨String.toList⟩

namespace Text

/-- Size of the UTF-8 encoding. -/
def byteLength : Text → Nat
  | [] => 0
  | c :: t => c.utf8Size + byteLength t

@[simp] theorem byteLength_nil : byteLength [] = 0 := rfl

@[simp] theorem byteLength_cons (c : Char) (t : Text) :
    byteLength (c :: t) = c.utf8Size + byteLength t := rfl

@[simp] theorem byteLength_append (s t : Text) :
    byteLength (s ++ t) = byteLength s + byteLength t := by
  induction s with
  | nil => simp
  | cons c s ih => simp [ih, Nat.add_assoc]

theorem byteLength_pos {t : Text} (h : t ≠ []) : 0 < byteLength t := by
  cases t with
  | nil => exact absurd rfl h
  | cons c rest =>
    have := c.utf8Size_pos
    simp only [byteLength_cons]
    omega

/-- Byte offset of the character with the given index; an index past the end gives the size. -/
def byteOffset (t : Text) (index : Nat) : Nat := byteLength (t.take index)

/-- What is left of a text without its first bytes, cut between two characters. -/
def dropBytes : Nat → Text → Text
  | 0, t => t
  | _ + 1, [] => []
  | n + 1, c :: t => dropBytes (n + 1 - c.utf8Size) t

/-- The first bytes of a text, cut between two characters. -/
def takeBytes : Nat → Text → Text
  | 0, _ => []
  | _ + 1, [] => []
  | n + 1, c :: t => c :: takeBytes (n + 1 - c.utf8Size) t

/-- The part of a text between two byte offsets. -/
def slice (t : Text) (start stop : Nat) : Text := takeBytes (stop - start) (dropBytes start t)

theorem byteLength_cons_eq_succ (c : Char) (t : Text) :
    ∃ n, byteLength (c :: t) = n + 1 ∧ n + 1 - c.utf8Size = byteLength t := by
  have wide := c.utf8Size_pos
  exact ⟨c.utf8Size + byteLength t - 1, by rw [byteLength_cons]; omega, by omega⟩

theorem dropBytes_append (front rest : Text) :
    dropBytes front.byteLength (front ++ rest) = rest := by
  induction front with
  | nil => rw [byteLength_nil, List.nil_append, dropBytes]
  | cons c front ih =>
    obtain ⟨n, size, left⟩ := byteLength_cons_eq_succ c front
    rw [size, List.cons_append, dropBytes, left, ih]

theorem takeBytes_append (front rest : Text) :
    takeBytes front.byteLength (front ++ rest) = front := by
  induction front with
  | nil => rw [byteLength_nil, takeBytes]
  | cons c front ih =>
    obtain ⟨n, size, left⟩ := byteLength_cons_eq_succ c front
    rw [size, List.cons_append, takeBytes, left, ih]

theorem slice_append (front piece rest : Text) :
    slice (front ++ piece ++ rest) front.byteLength (front ++ piece).byteLength = piece := by
  rw [slice, List.append_assoc, dropBytes_append, byteLength_append, Nat.add_sub_cancel_left,
    takeBytes_append]

def ofNat (n : Nat) : Text := Nat.toDigits 10 n

/-- What follows `mark` when the text starts with it. -/
def after? : (mark t : Text) → Option Text
  | [], t => some t
  | _ :: _, [] => none
  | m :: mark, c :: t => if m = c then after? mark t else none

@[simp] theorem after?_append (mark rest : Text) : after? mark (mark ++ rest) = some rest := by
  induction mark with
  | nil => rfl
  | cons m mark ih => simp [after?, ih]

theorem after?_eq_some {mark t rest : Text} : after? mark t = some rest ↔ t = mark ++ rest := by
  constructor
  · intro h
    fun_induction after? mark t with
    | case1 t => simp_all
    | case2 => simp at h
    | case3 m mark t ih => simp [ih h]
    | case4 => simp at h
  · rintro rfl
    exact after?_append mark rest

theorem after?_isSome_iff {mark t : Text} : (after? mark t).isSome ↔ mark <+: t := by
  rw [Option.isSome_iff_exists]
  constructor
  · rintro ⟨rest, found⟩
    exact ⟨rest, (after?_eq_some.1 found).symm⟩
  · rintro ⟨rest, same⟩
    exact ⟨rest, after?_eq_some.2 same.symm⟩

def startsWith (t mark : Text) : Bool := (after? mark t).isSome

/-- The text without `mark` at its end, if it has it there. -/
def before? (mark t : Text) : Option Text :=
  (after? mark.reverse t.reverse).map List.reverse

theorem before?_eq_some {mark t rest : Text} : before? mark t = some rest ↔ t = rest ++ mark := by
  simp only [before?, Option.map_eq_some_iff, after?_eq_some]
  constructor
  · rintro ⟨r, hr, rfl⟩
    have := congrArg List.reverse hr
    simpa using this
  · rintro rfl
    exact ⟨rest.reverse, by simp, by simp⟩

/-- Cuts around the first occurrence of `mark`. -/
def cutAt? (mark : Text) : Text → Option (Text × Text)
  | [] => if mark.isEmpty then some ([], []) else none
  | c :: t =>
    match after? mark (c :: t) with
    | some rest => some ([], rest)
    | none => (cutAt? mark t).map fun (front, rest) => (c :: front, rest)

theorem eq_of_cutAt? {mark t front rest : Text} (h : cutAt? mark t = some (front, rest)) :
    t = front ++ mark ++ rest := by
  induction t generalizing front with
  | nil =>
    cases mark <;> simp_all [cutAt?]
  | cons c t ih =>
    rw [cutAt?] at h
    split at h
    · next r hr =>
      obtain ⟨rfl, rfl⟩ := by simpa using h
      simpa using after?_eq_some.1 hr
    · obtain ⟨⟨f, r⟩, hf, he⟩ := Option.map_eq_some_iff.1 h
      obtain ⟨rfl, rfl⟩ := by simpa using he
      simp [ih hf]

theorem cutAt?_of_occurs (mark body after : Text) :
    ∃ front rest, cutAt? mark (body ++ mark ++ after) = some (front, rest) ∧
      front.length ≤ body.length := by
  induction body with
  | nil =>
    refine ⟨[], after, ?_, Nat.le_refl _⟩
    rw [List.nil_append]
    cases whole : mark ++ after with
    | nil => simp_all [cutAt?]
    | cons c t => rw [cutAt?, ← whole, after?_append]
  | cons c body ih =>
    obtain ⟨front, rest, found, le⟩ := ih
    simp only [List.cons_append, cutAt?, found]
    split
    · next rest' _ => exact ⟨[], rest', rfl, Nat.zero_le _⟩
    · exact ⟨c :: front, rest, rfl, Nat.succ_le_succ le⟩

def includes (t mark : Text) : Bool := (cutAt? mark t).isSome

/-- The pieces between the separators; one more than there are separators. -/
def splitOn (separator : Char) : Text → List Text
  | [] => [[]]
  | c :: t =>
    if c = separator then [] :: splitOn separator t
    else match splitOn separator t with
      | [] => [[c]]
      | piece :: pieces => (c :: piece) :: pieces

theorem splitOn_eq (separator : Char) (t : Text) :
    splitOn separator t = List.splitOn separator t := by
  induction t with
  | nil => rfl
  | cons c t ih =>
    rw [splitOn, List.splitOn_cons_eq_if_modifyHead, ih]
    by_cases hc : c = separator
    · simp [hc]
    · obtain ⟨piece, pieces, split⟩ := List.exists_cons_of_ne_nil (List.splitOn_ne_nil separator t)
      simp [hc, split]

/-- Cuts around the last occurrence of a character among those of `marks`. -/
def cutAtLast? (marks : Char → Bool) : Text → Option (Text × Text)
  | [] => none
  | c :: t =>
    match cutAtLast? marks t with
    | some (front, rest) => some (c :: front, rest)
    | none => if marks c then some ([], t) else none

theorem cutAtLast?_eq_none {marks : Char → Bool} {t : Text} :
    cutAtLast? marks t = none ↔ ∀ c ∈ t, marks c = false := by
  induction t with
  | nil => simp [cutAtLast?]
  | cons c t ih =>
    rw [cutAtLast?, List.forall_mem_cons, ← ih]
    cases cutAtLast? marks t with
    | none => simp
    | some cut => simp

theorem cutAtLast?_append {marks : Char → Bool} (front : Text) {m : Char} {rest : Text}
    (marked : marks m = true) (free : ∀ c ∈ rest, marks c = false) :
    cutAtLast? marks (front ++ m :: rest) = some (front, rest) := by
  induction front with
  | nil => simp [cutAtLast?, cutAtLast?_eq_none.2 free, marked]
  | cons c front ih => simp [cutAtLast?, ih]

theorem eq_of_cutAtLast? {marks : Char → Bool} {t front rest : Text}
    (h : cutAtLast? marks t = some (front, rest)) :
    ∃ m, marks m = true ∧ t = front ++ m :: rest ∧ ∀ c ∈ rest, marks c = false := by
  induction t generalizing front with
  | nil => simp [cutAtLast?] at h
  | cons c t ih =>
    rw [cutAtLast?] at h
    split at h
    · next front' rest' later =>
      obtain ⟨rfl, rfl⟩ : c :: front' = front ∧ rest' = rest := by simpa using h
      obtain ⟨m, marked, rfl, free⟩ := ih later
      exact ⟨m, marked, rfl, free⟩
    · next later =>
      obtain ⟨marked, rfl, rfl⟩ : marks c = true ∧ [] = front ∧ t = rest := by simpa using h
      exact ⟨c, marked, rfl, cutAtLast?_eq_none.1 later⟩

/-- The part after the last character of `marks`, the whole text if there is none. -/
def afterLast (marks : Char → Bool) (t : Text) : Text :=
  match cutAtLast? marks t with
  | some (_, rest) => rest
  | none => t

/-- The part before the last character of `marks`, the whole text if there is none. -/
def beforeLast (marks : Char → Bool) (t : Text) : Text :=
  match cutAtLast? marks t with
  | some (front, _) => front
  | none => t

/-- The given lines, each with a line break after it. -/
def lines (given : List Text) : Text := given.flatMap (· ++ ['\n'])

/-- Lower-case hexadecimal digits, at least `width` of them. -/
def hex (width n : Nat) : Text :=
  let digits := Nat.toDigits 16 n
  List.replicate (width - digits.length) '0' ++ digits

theorem hex_one (n : Nat) : hex 1 n = Nat.toDigits 16 n := by
  have some_digit := Nat.length_toDigits_pos (b := 16) (n := n)
  have full : 1 - (Nat.toDigits 16 n).length = 0 := by omega
  rw [hex, full]
  rfl

theorem hex_succ {width n : Nat} (pos : 0 < width) (small : n < Nat.pow 16 width) :
    hex (width + 1) n = '0' :: hex width n := by
  have short := (Nat.length_toDigits_le_iff (by decide) pos).2 small
  rw [hex, Nat.succ_sub short]
  rfl

theorem length_hex {width n : Nat} (pos : 0 < width) (small : n < Nat.pow 16 width) :
    (hex width n).length = width := by
  have short := (Nat.length_toDigits_le_iff (by decide) pos).2 small
  simp only [hex, List.length_append, List.length_replicate]
  omega

def spaces (n : Nat) : Text := List.replicate n ' '

def isSpaceOrTab (c : Char) : Bool := c = ' ' || c = '\t'

/-- Whether a character lies in one of the inclusive ranges of code points. -/
def inRanges (ranges : List (Nat × Nat)) (c : Char) : Bool :=
  ranges.any fun (first, last) => first ≤ c.toNat && c.toNat ≤ last

end Text

end JspEndpoint
