import JspEndpoint.Decimal.Basic
import JspEndpoint.Report
import Mathlib.Data.List.Basic

/-!
The JSON layout loses nothing. Every form of the layout shows where it ends: what is written, and the
text that follows it, can be told from the two together. This passes from characters to strings, and
from members and elements to objects and lists, so that no two sheets are laid out alike. And no two
classes have the same sheet, since kinds and names tell the fields apart.
-/

namespace JspEndpoint.Text

/-- Written forms show where they end. -/
def Delimited {α : Type} (write : α → Text) : Prop :=
  ∀ ⦃a b : α⦄ ⦃s t : Text⦄, write a ++ s = write b ++ t → a = b ∧ s = t

namespace Delimited

variable {α β : Type} {f : α → Text} {g : β → Text}

theorem injective (h : Delimited f) : Function.Injective f := by
  intro a b same
  exact (h (congrArg (· ++ ([] : Text)) same)).1

theorem of_read {read : Text → Option (α × Text)} (h : ∀ a t, read (f a ++ t) = some (a, t)) :
    Delimited f := by
  intro a b s t same
  have found := h a s
  rw [same, h b t] at found
  obtain ⟨rfl, rfl⟩ := Prod.mk.inj (Option.some.inj found)
  exact ⟨rfl, rfl⟩

theorem append (hf : Delimited f) (hg : Delimited g) :
    Delimited fun p : α × β => f p.1 ++ g p.2 := by
  rintro ⟨a, b⟩ ⟨c, d⟩ s t same
  simp only [List.append_assoc] at same
  obtain ⟨rfl, rest⟩ := hf same
  obtain ⟨rfl, rfl⟩ := hg rest
  exact ⟨rfl, rfl⟩

theorem after (mark : Text) (h : Delimited f) : Delimited fun a => mark ++ f a := by
  intro a b s t same
  simp only [List.append_assoc] at same
  exact h (List.append_cancel_left same)

theorem flatMap (h : Delimited f) {stop : Text} (other : ∀ a s t, f a ++ s ≠ stop ++ t) :
    Delimited fun xs : List α => xs.flatMap f ++ stop := by
  intro xs
  induction xs with
  | nil =>
    intro ys s t same
    cases ys with
    | nil => exact ⟨rfl, List.append_cancel_left same⟩
    | cons y ys =>
      simp only [List.flatMap_nil, List.nil_append, List.flatMap_cons, List.append_assoc] at same
      exact absurd same.symm (other _ _ _)
  | cons x xs ih =>
    intro ys s t same
    cases ys with
    | nil =>
      simp only [List.flatMap_nil, List.nil_append, List.flatMap_cons, List.append_assoc] at same
      exact absurd same (other _ _ _)
    | cons y ys =>
      simp only [List.flatMap_cons, List.append_assoc] at same
      obtain ⟨rfl, rest⟩ := h same
      simp only [← List.append_assoc] at rest
      obtain ⟨rfl, rfl⟩ := ih rest
      exact ⟨rfl, rfl⟩

end Delimited

theorem intercalate_cons_eq (wall first : Text) (rest : List Text) :
    wall.intercalate (first :: rest) = first ++ rest.flatMap (wall ++ ·) := by
  induction rest generalizing first with
  | nil => simp
  | cons second rest ih => rw [List.intercalate_cons_cons, ih, List.flatMap_cons]; simp

end JspEndpoint.Text

namespace JspEndpoint.Report.Json

open JspEndpoint.Text

/-- The letters of short escapes, with the characters that they stand for. -/
def shortEscapes : List (Char × Char) :=
  [('"', '"'), ('\\', '\\'), ('b', '\x08'), ('f', '\x0c'), ('n', '\n'), ('r', '\r'), ('t', '\t')]

/-- Reads a character of a string and gives what follows it. -/
def readChar? : Text → Option (Char × Text)
  | [] => none
  | [c] => some (c, [])
  | c :: letter :: t =>
    if c = '\\' then
      match shortEscapes.lookup letter with
      | some d => some (d, t)
      | none => (digits? 16 (t.take 4)).map fun code => (Char.ofNat code, t.drop 4)
    else some (c, letter :: t)

theorem readChar?_plain {c : Char} (plain : c ≠ '\\') (t : Text) :
    readChar? (c :: t) = some (c, t) := by
  cases t with
  | nil => rfl
  | cons d t => rw [readChar?, if_neg plain]

theorem readChar?_code {n : Nat} (small : n < 0x20) (t : Text) :
    readChar? (['\\', 'u'] ++ hex 4 n ++ t) = some (Char.ofNat n, t) := by
  have four : (hex 4 n).length = 4 := length_hex (by decide) (Nat.lt_trans small (by decide))
  have read : readChar? (['\\', 'u'] ++ hex 4 n ++ t) =
      (digits? 16 ((hex 4 n ++ t).take 4)).map fun code => (Char.ofNat code, (hex 4 n ++ t).drop 4) :=
    rfl
  rw [read, List.take_left' four, List.drop_left' four, digits?_hex, Option.map_some]

theorem readChar?_escapeChar (c : Char) (t : Text) : readChar? (escapeChar c ++ t) = some (c, t) := by
  have code : ∀ n, c.toNat = n → Char.ofNat n = c := fun n same => same ▸ Char.ofNat_toNat c
  unfold escapeChar
  split
  · next quote => subst quote; rfl
  split
  · next slash => subst slash; rfl
  split
  · next back => rw [← code _ back]; rfl
  split
  · next feed => rw [← code _ feed]; rfl
  split
  · next newline => subst newline; rfl
  split
  · next carriage => subst carriage; rfl
  split
  · next tab => subst tab; rfl
  split
  · next small => rw [readChar?_code small, Char.ofNat_toNat]
  · next slash _ _ _ _ _ _ => exact readChar?_plain slash t

theorem escapeChar_ne_quote (c : Char) (s t : Text) : escapeChar c ++ s ≠ ['"'] ++ t := by
  intro same
  have read := readChar?_escapeChar c s
  rw [same, List.singleton_append, readChar?_plain (by decide)] at read
  obtain ⟨rfl, -⟩ := Prod.mk.inj (Option.some.inj read)
  simp [escapeChar] at same

theorem string_delimited : Delimited string := by
  have chars : Delimited escapeChar := .of_read readChar?_escapeChar
  have whole := (chars.flatMap escapeChar_ne_quote).after ['"']
  have form : string = fun t => ['"'] ++ (t.flatMap escapeChar ++ ['"']) := by
    funext t
    rw [string, List.append_assoc]
  rwa [form]

theorem block_cons (opening closing : Char) (indent : Nat) (item : Text) (rest : List Text) :
    block opening closing indent (item :: rest) =
      opening :: '\n' :: spaces (indent + 2) ++ item ++
        (rest.flatMap (fun item => ',' :: '\n' :: spaces (indent + 2) ++ item) ++
          ('\n' :: spaces indent ++ [closing])) := by
  simp [block, intercalate_cons_eq, List.flatMap_map]

theorem block_delimited {α : Type} {write : α → Text} (h : Delimited write) (opening : Char)
    {closing : Char} (visible : closing ≠ '\n') (indent : Nat) :
    Delimited fun items : List α => block opening closing indent (items.map write) := by
  have first := h.after (opening :: '\n' :: spaces (indent + 2))
  have others := (h.after (',' :: '\n' :: spaces (indent + 2))).flatMap
    fun a s t => by
      show _ ≠ ('\n' :: spaces indent ++ [closing]) ++ t
      simp
  have filled := first.append others
  intro xs ys s t same
  cases xs with
  | nil =>
    cases ys with
    | nil => exact ⟨rfl, List.append_cancel_left same⟩
    | cons y ys =>
      simp only [List.map_nil, List.map_cons, block_cons] at same
      simp [block, visible] at same
  | cons x xs =>
    cases ys with
    | nil =>
      simp only [List.map_nil, List.map_cons, block_cons] at same
      simp [block, visible.symm] at same
    | cons y ys =>
      simp only [List.map_cons, block_cons, List.flatMap_map] at same
      obtain ⟨pair, rfl⟩ := @filled (x, xs) (y, ys) s t same
      obtain ⟨rfl, rfl⟩ := Prod.mk.inj pair
      exact ⟨rfl, rfl⟩

theorem array_delimited {α : Type} {write : α → Text} (h : Delimited write) (indent : Nat) :
    Delimited fun items : List α => array indent (items.map write) :=
  block_delimited h '[' (by decide) indent

theorem object_delimited {α : Type} {write : α → Text} (h : Delimited write) (indent : Nat) :
    Delimited fun members : List (Text × α) =>
      object indent (members.map fun (name, value) => (name, write value)) := by
  have member := string_delimited.append (h.after ": ")
  have whole := block_delimited member '{' (by decide : '}' ≠ '\n') indent
  simpa [object, List.map_map, Function.comp_def, List.append_assoc] using whole

theorem scalar_delimited : Delimited scalar := by
  intro a b s t same
  cases a with
  | text u =>
    cases b with
    | text v =>
      obtain ⟨rfl, rfl⟩ := string_delimited same
      exact ⟨rfl, rfl⟩
    | flag v => cases v <;> simp [scalar, string] at same
  | flag u =>
    cases b with
    | text v => cases u <;> simp [scalar, string] at same
    | flag v => cases u <;> cases v <;> simp_all [scalar]

theorem record_delimited (indent : Nat) : Delimited (record indent) :=
  object_delimited scalar_delimited indent

theorem scalar_ne_array (a : Scalar) (indent : Nat) (items : List Text) (s t : Text) :
    scalar a ++ s ≠ array indent items ++ t := by
  have opens : ∃ more, array indent items = '[' :: more := by
    cases items with
    | nil => exact ⟨_, rfl⟩
    | cons item rest => exact ⟨_, block_cons '[' ']' indent item rest⟩
  obtain ⟨more, array⟩ := opens
  rw [array]
  cases a with
  | text u => simp [scalar, string]
  | flag u => cases u <;> simp [scalar]

theorem field_delimited (indent : Nat) : Delimited (field indent) := by
  intro a b s t same
  cases a with
  | scalar u =>
    cases b with
    | scalar v =>
      obtain ⟨rfl, rfl⟩ := scalar_delimited same
      exact ⟨rfl, rfl⟩
    | records v => exact absurd same (scalar_ne_array u indent _ s t)
  | records u =>
    cases b with
    | scalar v => exact absurd same.symm (scalar_ne_array v indent _ t s)
    | records v =>
      obtain ⟨rfl, rfl⟩ := array_delimited (record_delimited (indent + 2)) indent same
      exact ⟨rfl, rfl⟩

theorem sheet_injective : Function.Injective sheet :=
  (object_delimited (field_delimited 2) 0).injective

end JspEndpoint.Report.Json

namespace JspEndpoint.Report

open JspEndpoint.Endpoint

/-- The part that a record describes, read off its shape and its kind. -/
def readPart? : Record → Option Part
  | [(_, .text kind), (_, .text t)] =>
    if kind = "comment" then some (.comment t)
    else if kind = "import" then some (.importName t)
    else if kind = "declaration" then some (.declaration t)
    else if kind = "scriptlet" then some (.scriptlet t)
    else if kind = "markup" then some (.markup t)
    else some (.expression t)
  | [_, (_, .text basename), (_, .flag declares)] => some (.bundle (.load basename declares))
  | [_, (_, .text key), (_, .text var), (_, .text scope)] => some (.bundle (.lookup key var scope))
  | _ => none

theorem readPart?_partRecord (part : Part) : readPart? (partRecord part) = some part := by
  cases part with
  | bundle step => cases step <;> rfl
  | _ => rfl

theorem partRecord_injective : Function.Injective partRecord := by
  intro a b same
  have read := readPart?_partRecord a
  rw [same, readPart?_partRecord b] at read
  exact (Option.some.inj read).symm

theorem partsField_inj {α : Type} {make : α → Part} (hmake : Function.Injective make) {name : Text}
    {a b : List α} (h : partsField name (a.map make) = partsField name (b.map make)) : a = b := by
  have records : a.map (partRecord ∘ make) = b.map (partRecord ∘ make) := by
    simpa [partsField, List.map_map] using h
  exact List.map_injective_iff.2 (partRecord_injective.comp hmake) records

theorem optionField_append_inj {name : Text} {a b : Option Text} {s t : Sheet}
    (hs : ∀ field ∈ s, field.1 ≠ name) (ht : ∀ field ∈ t, field.1 ≠ name)
    (h : optionField name a ++ s = optionField name b ++ t) : a = b ∧ s = t := by
  cases a with
  | none =>
    cases b with
    | none => exact ⟨rfl, h⟩
    | some v =>
      have present : textField name v ∈ s := by
        rw [show s = textField name v :: t from h]
        exact List.mem_cons_self
      exact absurd rfl (hs _ present)
  | some u =>
    cases b with
    | none =>
      have present : textField name u ∈ t := by
        rw [show t = textField name u :: s from h.symm]
        exact List.mem_cons_self
      exact absurd rfl (ht _ present)
    | some v => simpa [optionField, textField] using h

theorem ne_of_mem_optionField_append {name other : Text} (hne : other ≠ name) {a : Option Text}
    {s : Sheet} (hs : ∀ field ∈ s, field.1 ≠ name) :
    ∀ field ∈ optionField other a ++ s, field.1 ≠ name := by
  refine List.forall_mem_append.2 ⟨?_, hs⟩
  cases a with
  | none => exact fun _ absent => absurd absent List.not_mem_nil
  | some u => exact List.forall_mem_singleton.2 hne

theorem sheetOf_injective : Function.Injective sheetOf := by
  intro c d same
  simp only [sheetOf, List.append_assoc] at same
  obtain ⟨texts, rest⟩ := List.append_inj same rfl
  obtain ⟨source, rest⟩ := optionField_append_inj
    (ne_of_mem_optionField_append (by decide) (by simp [partsField]))
    (ne_of_mem_optionField_append (by decide) (by simp [partsField])) rest
  obtain ⟨component, parts⟩ :=
    optionField_append_inj (by simp [partsField]) (by simp [partsField]) rest
  simp only [List.cons.injEq, and_true] at parts
  obtain ⟨comments, imports, codes, declarations, setup⟩ := parts
  have comments := partsField_inj (fun _ _ => Part.comment.inj) comments
  have imports := partsField_inj (fun _ _ => Part.importName.inj) imports
  have codes : c.codes = d.codes := partsField_inj Function.injective_id (by simpa using codes)
  have declarations := partsField_inj (fun _ _ => Part.declaration.inj) declarations
  have setup := partsField_inj (fun _ _ => Part.bundle.inj) setup
  cases c
  cases d
  simp_all [textField]

/-- Every class has a JSON text, and no other class has the same. -/
theorem reportClass_json_lossless (c : EndpointClass) :
    ∃ text, reportClass .json c = .ok text ∧ ∀ d, reportClass .json d = .ok text ↔ d = c := by
  refine ⟨Json.sheet (sheetOf c), rfl, fun d => ⟨fun same => ?_, fun same => same ▸ rfl⟩⟩
  exact sheetOf_injective (Json.sheet_injective (Except.ok.inj same))

end JspEndpoint.Report
