import JspEndpoint.Text.Basic

/-!
The constructs of a page template and the marks that open and close them. A construct runs from its
opener to its end mark: the first one after the opener, and for a bundle tag the first one outside
quotes. What else a template holds is markup.
-/

namespace JspEndpoint.Template

inductive Construct where
  | comment
  | declaration
  | directive
  | expression
  | scriptlet
  | bundleMessage
  | bundleSet
  deriving DecidableEq, Repr

namespace Construct

def opener : Construct → Text
  | comment => ['<', '%', '-', '-']
  | declaration => ['<', '%', '!']
  | directive => ['<', '%', '@']
  | expression => ['<', '%', '=']
  | scriptlet => ['<', '%']
  | bundleMessage => ['<', 'f', 'm', 't', ':', 'm', 'e', 's', 's', 'a', 'g', 'e']
  | bundleSet => ['<', 'f', 'm', 't', ':', 's', 'e', 't', 'B', 'u', 'n', 'd', 'l', 'e']

def closer : Construct → Text
  | comment => ['-', '-', '%', '>']
  | bundleMessage | bundleSet => ['>']
  | _ => ['%', '>']

def isBundleTag : Construct → Bool
  | bundleMessage | bundleSet => true
  | _ => false

/-- Every construct, those with a longer opener before those whose opener starts it. -/
def all : List Construct :=
  [comment, declaration, directive, expression, scriptlet, bundleMessage, bundleSet]

/-- The construct with the longest opener that the text starts with, and what follows the opener. -/
def opened? (t : Text) : Option (Construct × Text) :=
  all.findSome? fun k => (Text.after? k.opener t).map (k, ·)

theorem eq_of_opened? {t rest : Text} {k : Construct} (h : opened? t = some (k, rest)) :
    t = k.opener ++ rest := by
  obtain ⟨_, _, hj⟩ := List.exists_of_findSome?_eq_some h
  obtain ⟨_, hr, he⟩ := Option.map_eq_some_iff.1 hj
  obtain ⟨rfl, rfl⟩ := by simpa using he
  exact Text.after?_eq_some.1 hr

/-- Cuts a tag around its first `>` outside quotes, given the quote that is open. -/
def cutTag? (quote : Option Char) : Text → Option (Text × Text)
  | [] => none
  | c :: t =>
    match quote with
    | some q => (cutTag? (if c = q then none else some q) t).map fun (body, rest) => (c :: body, rest)
    | none =>
      if c = '>' then some ([], t)
      else
        (cutTag? (if c = '"' ∨ c = '\'' then some c else none) t).map
          fun (body, rest) => (c :: body, rest)

theorem eq_of_cutTag? {quote : Option Char} {t body rest : Text}
    (h : cutTag? quote t = some (body, rest)) : t = body ++ '>' :: rest := by
  induction t generalizing quote body with
  | nil => simp [cutTag?] at h
  | cons c t ih =>
    cases quote with
    | some q =>
      obtain ⟨⟨b, r⟩, hb, he⟩ := Option.map_eq_some_iff.1 h
      obtain ⟨rfl, rfl⟩ := by simpa using he
      simp [ih hb]
    | none =>
      rw [cutTag?] at h
      split at h
      · next hc =>
        obtain ⟨rfl, rfl⟩ := by simpa using h
        simp [hc]
      · obtain ⟨⟨b, r⟩, hb, he⟩ := Option.map_eq_some_iff.1 h
        obtain ⟨rfl, rfl⟩ := by simpa using he
        simp [ih hb]

/-- Cuts what follows an opener around the end mark of the construct. -/
def close? (k : Construct) (t : Text) : Option (Text × Text) :=
  if k.isBundleTag then cutTag? none t else Text.cutAt? k.closer t

theorem eq_of_close? {k : Construct} {t body rest : Text} (h : k.close? t = some (body, rest)) :
    t = body ++ k.closer ++ rest := by
  unfold close? at h
  split at h
  · next hk =>
    cases k <;> simp_all [isBundleTag, closer] <;> exact eq_of_cutTag? h
  · exact Text.eq_of_cutAt? h

/-- The tag or block as it is named in messages about its body. -/
def title (k : Construct) : Text := k.opener ++ ['>']

end Construct

end JspEndpoint.Template
