import JspEndpoint.Proofs.ScanEntries
import JspEndpoint.Proofs.WrittenAttributes

/-!
Writing a bundle tag and scanning it again. Where a tag ends is decided while scanning, what its
attributes are only later, by another reader; both agree on every tag that can be written, whatever
its values hold and whatever follows it.
-/

namespace JspEndpoint.Template

/-- The search for the end of a tag goes over the text, from outside quotes to outside quotes. -/
def PassedOver (s : Text) : Prop :=
  ∀ t, Construct.cutTag? none (s ++ t) =
    (Construct.cutTag? none t).map fun (body, rest) => (s ++ body, rest)

namespace PassedOver

theorem nil : PassedOver [] := by
  intro t
  simp

theorem append {r s : Text} (front : PassedOver r) (later : PassedOver s) :
    PassedOver (r ++ s) := by
  intro t
  rw [List.append_assoc, front, later, Option.map_map]
  simp [Function.comp_def]

theorem flatMap {α : Type} {f : α → Text} (h : ∀ a, PassedOver (f a)) (xs : List α) :
    PassedOver (xs.flatMap f) := by
  induction xs with
  | nil => exact nil
  | cons a rest ih => exact (h a).append ih

theorem plain {s : Text} (h : ∀ c ∈ s, c ≠ '>' ∧ c ≠ '"' ∧ c ≠ '\'') : PassedOver s := by
  induction s with
  | nil => exact nil
  | cons c s ih =>
    obtain ⟨⟨noEnd, noDouble, noSingle⟩, later⟩ := List.forall_mem_cons.1 h
    intro t
    rw [List.cons_append, Construct.cutTag?_cons, if_neg (by simp [noEnd])]
    simp [quoteStep, noDouble, noSingle, ih later t, Function.comp_def]

theorem cutTag?_quoted {q : Char} {content : Text} (free : q ∉ content) (t : Text) :
    Construct.cutTag? (some q) (content ++ q :: t) =
      (Construct.cutTag? none t).map fun (body, rest) => (content ++ q :: body, rest) := by
  induction content with
  | nil => simp [Construct.cutTag?_cons, quoteStep]
  | cons c content ih =>
    obtain ⟨other, later⟩ := not_or.1 (mt List.mem_cons.2 free)
    rw [List.cons_append, Construct.cutTag?_cons, if_neg (by simp)]
    simp [quoteStep, Ne.symm other, ih later, Function.comp_def]

theorem quoted {q : Char} (isQuote : q = '"' ∨ q = '\'') {content : Text} (free : q ∉ content) :
    PassedOver (q :: content ++ [q]) := by
  intro t
  have noEnd : q ≠ '>' := by
    rcases isQuote with rfl | rfl <;> decide
  have opens : quoteStep none q = some q := by simp [quoteStep, isQuote]
  rw [List.append_assoc, List.cons_append, Construct.cutTag?_cons, if_neg (by simp [noEnd]), opens]
  simp [cutTag?_quoted free, Function.comp_def]

theorem blanks (b : Blanks) : PassedOver b := by
  refine plain fun c hc => ?_
  have blank := b.2 c hc
  refine ⟨?_, ?_, ?_⟩ <;>
  · rintro rfl
    revert blank
    decide

theorem name {n : Text} (h : ∀ c ∈ n, Attribute.isNameChar c) : PassedOver n := by
  refine plain fun c hc => ?_
  have nameChar := h c hc
  refine ⟨?_, ?_, ?_⟩ <;>
  · rintro rfl
    revert nameChar
    decide

end PassedOver

theorem WrittenAttribute.passedOver (w : WrittenAttribute) : PassedOver w.text := by
  have equals : PassedOver ['='] := PassedOver.plain (by simp)
  have value : PassedOver w.value := PassedOver.quoted w.isQuote w.content_free
  exact (PassedOver.blanks w.before).append ((PassedOver.name w.name_chars).append
    (((PassedOver.blanks w.afterName).append equals).append
      ((PassedOver.blanks w.beforeValue).append (value.append (PassedOver.blanks w.after)))))

theorem TagEnding.passedOver (ending : TagEnding) : PassedOver ending.text := by
  cases ending with
  | plain => exact PassedOver.nil
  | slash before after =>
    have slash : PassedOver ['/'] := PassedOver.plain (by simp)
    exact ((PassedOver.blanks before).append slash).append (PassedOver.blanks after)

/-- A bundle tag as it stands in a template. -/
structure WrittenTag where
  kind : Construct
  isTag : kind.isBundleTag
  attributes : List WrittenAttribute
  ending : TagEnding

namespace WrittenTag

def body (tag : WrittenTag) : Text :=
  tag.attributes.flatMap WrittenAttribute.text ++ tag.ending.text

def text (tag : WrittenTag) : Text := tag.kind.opener ++ tag.body ++ ['>']

theorem close?_body (tag : WrittenTag) (rest : Text) :
    tag.kind.close? (tag.body ++ '>' :: rest) = some (tag.body, rest) := by
  have attributes := PassedOver.flatMap WrittenAttribute.passedOver tag.attributes
  have passed : PassedOver tag.body := attributes.append tag.ending.passedOver
  rw [Construct.close?, if_pos tag.isTag, passed, Construct.cutTag?_cons]
  simp

theorem construct_text (tag : WrittenTag) :
    (Lexeme.construct tag.kind tag.body).text = tag.text := by
  rw [Lexeme.text, Construct.closer_of_isBundleTag tag.isTag]
  rfl

end WrittenTag

theorem opened?_tag {k : Construct} (tag : k.isBundleTag) (t : Text) :
    Construct.opened? (k.opener ++ t) = some (k, t) := by
  cases k with
  | bundleMessage | bundleSet => rfl
  | _ => cases tag

theorem not_breaksOff_tag {t tail : Text} {k : Construct} (tag : k.isBundleTag)
    (opened : Construct.opened? t = some (k, tail)) : ¬BreaksOff t := by
  rw [breaksOff_iff_of_opened? opened]
  rintro ⟨rfl, -⟩
  cases tag

theorem scan_tag (tag : WrittenTag) (rest : Text) :
    scan (tag.text ++ rest) = .construct tag.kind tag.body :: scan rest := by
  have opened := opened?_tag tag.isTag (tag.body ++ '>' :: rest)
  have whole := not_breaksOff_tag tag.isTag opened
  have text : tag.text ++ rest = tag.kind.opener ++ (tag.body ++ '>' :: rest) := by
    simp [WrittenTag.text]
  obtain ⟨t, angle⟩ := tag.kind.opener_eq_cons
  rw [text]
  rw [angle, List.cons_append] at opened whole ⊢
  rw [scan, next_of_opened opened whole, tag.close?_body]

/-- Every entry moved on by a number of bytes. -/
def shift (bytes : Nat) (entries : List Placed) : List Placed :=
  entries.map fun p => ⟨p.start + bytes, p.lexeme⟩

theorem place_add (start bytes : Nat) (lexemes : List Lexeme) :
    place (start + bytes) lexemes = shift bytes (place start lexemes) := by
  induction lexemes generalizing start with
  | nil => rfl
  | cons l rest ih =>
    rw [place, Nat.add_right_comm, ih]
    rfl

/-- A written tag is scanned as one entry before the entries of what follows it, and its body is
read as the attributes that were written. -/
theorem written_tag_round_trip (tag : WrittenTag) (rest : Text) :
    ∃ body,
      place 0 (scan (tag.text ++ rest)) =
        ⟨0, .construct tag.kind body⟩ :: shift tag.text.byteLength (place 0 (scan rest)) ∧
      (Lexeme.construct tag.kind body).text = tag.text ∧
      readTag body = .ok (tag.attributes.map WrittenAttribute.toAttribute) := by
  refine ⟨tag.body, ?_, tag.construct_text, readTag_written tag.attributes tag.ending⟩
  rw [scan_tag, place, tag.construct_text, place_add]

example : scan "<fmt:message key='a>b' />c" =
    [.construct .bundleMessage " key='a>b' /", .markup "c"] := by
  decide +kernel

end JspEndpoint.Template
