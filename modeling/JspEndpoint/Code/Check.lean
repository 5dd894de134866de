import JspEndpoint.Text.Basic

/-!
Checks on the text of a generated class.
-/

namespace JspEndpoint.Code

/-- How often a text that is not empty occurs, counted from the left without overlaps. -/
def countFrom (mark t : Text) : Nat :=
  match Text.cutAt? mark t with
  | none => 0
  | some (_, rest) => if rest.length < t.length then countFrom mark rest + 1 else 0
termination_by t.length

/-- The empty text occurs before every character and at the end. -/
def occurrences (mark t : Text) : Nat := if mark.isEmpty then t.length + 1 else countFrom mark t

/-- Whether the texts occur one after the other without overlaps. Each is taken where it comes
first. -/
def inOrder : List Text → Text → Bool
  | [], _ => true
  | mark :: marks, t =>
    match Text.cutAt? mark t with
    | none => false
    | some (_, rest) => inOrder marks rest

inductive Check where
  | includes (t : Text)
  | excludes (t : Text)
  | className (name : Text)
  | route (path : Text)
  /-- A package declaration at the start or on a line of its own. -/
  | package (name : Text)
  /-- The number of statements that write markup. -/
  | markupWrites (n : Nat)
  | occurrences (t : Text) (n : Nat)
  | inOrder (ts : List Text)
  deriving DecidableEq, Repr

def classLine (name : Text) : Text := "\npublic class " ++ name ++ " \x7b\n"

def routeLine (path : Text) : Text := "\n@Path(\"" ++ path ++ "\")\n"

def packageLine (name : Text) : Text := "package " ++ name ++ ";\n"

def markupWrite : Text := "\t\tout.print(\""

def Check.passes (code : Text) : Check → Bool
  | includes t => code.includes t
  | excludes t => !code.includes t
  | className name => code.includes (classLine name)
  | route path => code.includes (routeLine path)
  | package name => code.startsWith (packageLine name) || code.includes ('\n' :: packageLine name)
  | markupWrites n => Code.occurrences markupWrite code = n
  | occurrences t n => Code.occurrences t code = n
  | inOrder ts => Code.inOrder ts code

end JspEndpoint.Code
