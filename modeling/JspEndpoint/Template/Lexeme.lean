import JspEndpoint.Template.Construct

/-!
Scanning cuts a template into lexemes. The cut loses nothing: the lexemes' texts, in order, are the
template. An opener whose end mark is missing is a lexeme of its own, and scanning goes on right
after it.
-/

namespace JspEndpoint.Template

inductive Lexeme where
  /-- A run of characters other than `<`. -/
  | markup (run : Text)
  /-- A `<` that opens no construct, with the `%` after it where a comment opener breaks off. -/
  | angle (mark : Text)
  | construct (kind : Construct) (body : Text)
  | unclosed (kind : Construct)
  deriving DecidableEq, Repr

namespace Lexeme

def text : Lexeme → Text
  | markup run => run
  | angle mark => mark
  | construct k body => k.opener ++ body ++ k.closer
  | unclosed k => k.opener

def notAngle (c : Char) : Bool := c != '<'

/-- The first lexeme of a text that starts with `c`, and what follows it. A `<%-` that does not go
on to a comment opener opens nothing. -/
def next (c : Char) (t : Text) : Lexeme × Text :=
  if c = '<' then
    match Construct.opened? (c :: t) with
    | none => (angle ['<'], t)
    | some (.scriptlet, '-' :: tail) => (angle ['<', '%'], '-' :: tail)
    | some (k, tail) =>
      match k.close? tail with
      | some (body, rest) => (construct k body, rest)
      | none => (unclosed k, tail)
  else (markup (c :: t.takeWhile notAngle), t.dropWhile notAngle)

theorem next_text (c : Char) (t : Text) : (next c t).1.text ++ (next c t).2 = c :: t := by
  unfold next
  split
  · next hc =>
    split
    · simp [text, hc]
    · next tail ho =>
      rw [Construct.eq_of_opened? ho]
      rfl
    · next k tail _ ho =>
      rw [Construct.eq_of_opened? ho]
      split
      · next body rest hb => simp [text, Construct.eq_of_close? hb]
      · simp [text]
  · simp [text]

theorem opener_ne_nil (k : Construct) : k.opener ≠ [] := by
  cases k <;> simp [Construct.opener]

theorem next_text_ne_nil (c : Char) (t : Text) : (next c t).1.text ≠ [] := by
  unfold next
  split
  · split
    · simp [text]
    · simp [text]
    · split <;> simp [text, opener_ne_nil]
  · simp [text]

theorem next_length_lt (c : Char) (t : Text) : (next c t).2.length < (c :: t).length := by
  have same := congrArg List.length (next_text c t)
  have pos := List.length_pos_iff.2 (next_text_ne_nil c t)
  rw [List.length_append] at same
  omega

end Lexeme

def scan : Text → List Lexeme
  | [] => []
  | c :: t => (Lexeme.next c t).1 :: scan (Lexeme.next c t).2
termination_by t => t.length
decreasing_by exact Lexeme.next_length_lt c t

theorem scan_text (t : Text) : (scan t).flatMap Lexeme.text = t := by
  fun_induction scan t with
  | case1 => rfl
  | case2 c t ih => rw [List.flatMap_cons, ih, Lexeme.next_text]

/-- A lexeme and the byte offset where it starts. -/
structure Placed where
  start : Nat
  lexeme : Lexeme
  deriving DecidableEq, Repr

def Placed.stop (p : Placed) : Nat := p.start + p.lexeme.text.byteLength

/-- Lays lexemes one after the other from an offset on. -/
def place (start : Nat) : List Lexeme → List Placed
  | [] => []
  | l :: ls => ⟨start, l⟩ :: place (start + l.text.byteLength) ls

/-- What a lexeme is, its text apart. -/
inductive Kind where
  | construct (kind : Construct)
  | angle
  | markup
  deriving DecidableEq, Repr

namespace Kind

def all : List Kind := Construct.all.map construct ++ [angle, markup]

def name : Kind → Text
  | construct .comment => "Comment"
  | construct .declaration => "Declaration"
  | construct .directive => "Directive"
  | construct .expression => "Expression"
  | construct .scriptlet => "Scriptlet"
  | construct .bundleMessage => "BundleMessage"
  | construct .bundleSet => "BundleSet"
  | angle => "Angle"
  | markup => "Markup"

/-- The name in angle brackets that listings show. -/
def label : Kind → Text
  | construct .comment => "<comment>"
  | construct .declaration => "<declaration>"
  | construct .directive => "<directive>"
  | construct .expression => "<expression>"
  | construct .scriptlet => "<scriptlet>"
  | construct .bundleMessage => "<bundle-message>"
  | construct .bundleSet => "<bundle-set>"
  | angle => "<angle>"
  | markup => "<markup>"

def opener : Kind → Text
  | construct k => k.opener
  | angle => ['<']
  | markup => []

def isMarkup : Kind → Bool
  | construct _ => false
  | angle | markup => true

def isBundleTag : Kind → Bool
  | construct k => k.isBundleTag
  | angle | markup => false

end Kind

/-- Why a stretch of a template could not be scanned. -/
inductive LexicalError where
  | unclosedComment
  | unclosedBlock (opener : Text)
  | unclosedTag (opener : Text)
  | unrecognized
  deriving DecidableEq, Repr

namespace LexicalError

def message : LexicalError → Text
  | unclosedComment => "unterminated comment, missing '--%>'"
  | unclosedBlock opener => "unterminated '" ++ opener ++ "' block, missing '%>'"
  | unclosedTag opener => "unterminated '" ++ opener ++ "' tag, missing '>'"
  | unrecognized => "unrecognized input"

instance : Coe LexicalError Text := ⟨message⟩

/-- The order in which openers are looked for at the front of a failed stretch. -/
def openers : List Construct :=
  [.comment, .bundleSet, .bundleMessage, .declaration, .directive, .expression, .scriptlet]

/-- What is wrong with a failed stretch, by the opener it starts with. -/
def ofSlice (slice : Text) : LexicalError :=
  match openers.find? fun k => Text.startsWith slice k.opener with
  | some .comment => unclosedComment
  | some k => if k.isBundleTag then unclosedTag k.opener else unclosedBlock k.opener
  | none => unrecognized

end LexicalError

/-- The kind of a lexeme, or what is wrong with it. -/
def Lexeme.kind (l : Lexeme) : Except LexicalError Kind :=
  match l with
  | markup _ => .ok .markup
  | angle _ => .ok .angle
  | construct k _ => .ok (.construct k)
  | unclosed _ => .error (.ofSlice l.text)

/-- The kinds of the lexemes of a text, without the failures. -/
def kinds (t : Text) : List Kind := (scan t).filterMap fun l => l.kind.toOption

end JspEndpoint.Template
