import JspEndpoint.Settings.Toml.Lexical
import JspEndpoint.Settings.Toml.Moment

/-!
TOML documents. A document is a sequence of headers and assignments; tables are built from them in
order, and a table or a key that is defined twice is refused. A document that is not well formed has
no data.
-/

namespace JspEndpoint.Settings.Toml

/-- How a table came to be. -/
inductive Making where
  /-- On the way to another table that a header names. -/
  | implied
  /-- By a key with dots. -/
  | dotted
  /-- By a header of its own. -/
  | defined
  deriving DecidableEq, Repr

inductive Item where
  | value (d : Data)
  | table (made : Making) (entries : List (Text × Item))
  /-- Tables that headers in double brackets name; the last one is open. -/
  | tables (elements : List (List (Text × Item)))

abbrev Entries := List (Text × Item)

namespace Entries

def put (entries : Entries) (key : Text) (item : Item) : Entries :=
  match entries with
  | [] => [(key, item)]
  | (k, i) :: rest => if k = key then (key, item) :: rest else (k, i) :: put rest key item

/-- Changes the table at the end of a path, with the tables on the way made as needed. A path of
dotted keys does not lead into tables that a header defines. -/
def within (dotted : Bool) (change : Making → Entries → Option Entries) (made : Making) :
    List Text → Entries → Option Entries
  | [], entries => change made entries
  | key :: path, entries =>
    match entries.lookup key with
    | none => do
      let made := if dotted then Making.dotted else .implied
      let inner ← within dotted change made path []
      return put entries key (.table made inner)
    | some (.value _) => none
    | some (.tables elements) => do
      let last ← elements.getLast?
      let inner ← within dotted change .defined path last
      return put entries key (.tables (elements.dropLast ++ [inner]))
    | some (.table here inner) =>
      if dotted ∧ here = .defined then none
      else do
        let inner ← within dotted change here path inner
        return put entries key (.table here inner)

/-- Assigns a value to a key with dots, given as the path before its last name and that name. A table
that the path leads to has to be made by dotted keys too. -/
def assign (path : List Text) (key : Text) (d : Data) (entries : Entries) : Option Entries :=
  within true (fun made entries =>
    if (!path.isEmpty && made != .dotted) || (entries.lookup key).isSome then none
    else some (put entries key (.value d))) .defined path entries

def openTable (key : Text) (entries : Entries) : Option Entries :=
  match entries.lookup key with
  | none => some (put entries key (.table .defined []))
  | some (.table .implied inner) => some (put entries key (.table .defined inner))
  | some _ => none

def openElement (key : Text) (entries : Entries) : Option Entries :=
  match entries.lookup key with
  | none => some (put entries key (.tables [[]]))
  | some (.tables elements) => some (put entries key (.tables (elements ++ [[]])))
  | some _ => none

end Entries

mutual

def Item.toData : Item → Data
  | .value d => d
  | .table _ entries => .table (entriesData entries)
  | .tables elements => .list (elementsData elements)

def entriesData : List (Text × Item) → List (Text × Data)
  | [] => []
  | (key, item) :: rest => (key, item.toData) :: entriesData rest

def elementsData : List (List (Text × Item)) → List Data
  | [] => []
  | entries :: rest => .table (entriesData entries) :: elementsData rest

end

/-- How many levels of lists and inline tables, and of names in one key, are read. -/
def depthLimit : Nat := 80

/-- Names with dots between them and blanks around them, at most `fuel` of them. -/
def keyPath? : Nat → Text → Option (List Text × Text)
  | 0, _ => none
  | fuel + 1, t => do
    let (name, t) ← simpleKey? (skipSpaces t)
    match skipSpaces t with
    | '.' :: t =>
      let (names, t) ← keyPath? fuel t
      return (name :: names, t)
    | t => return ([name], t)

/-- A key: the names before the last one, and the last one. -/
def key? (t : Text) : Option ((List Text × Text) × Text) := do
  let (names, t) ← keyPath? (depthLimit - 1) t
  let last ← names.getLast?
  return ((names.dropLast, last), t)

abbrev Reader := Text → Option (Data × Text)

/-- The items of a list after its bracket. -/
def items? (value : Reader) (t : Text) : Option (List Data × Text) :=
  match skipTrivia false t with
  | ']' :: rest => some ([], rest)
  | start =>
    match value start with
    | none => none
    | some (d, rest) =>
      match skipTrivia false rest with
      | ']' :: rest => some ([d], rest)
      | ',' :: rest =>
        if rest.length < t.length then
          (items? value rest).map fun (ds, rest) => (d :: ds, rest)
        else none
      | _ => none
termination_by t.length

/-- The members of an inline table after its brace, or after a comma. -/
def members? (value : Reader) (entries : Entries) (t : Text) : Option (Entries × Text) :=
  match key? t with
  | none => none
  | some ((path, key), rest) =>
    match (Text.after? ['='] rest).bind fun rest => value (skipSpaces rest) with
    | none => none
    | some (d, rest) =>
      match entries.assign path key d with
      | none => none
      | some entries =>
        match skipSpaces rest with
        | '}' :: rest => some (entries, rest)
        | ',' :: rest => if rest.length < t.length then members? value entries rest else none
        | _ => none
termination_by t.length

def inlineTable? (value : Reader) (t : Text) : Option (Data × Text) :=
  match skipSpaces t with
  | '}' :: rest => some (.table [], rest)
  | t => (members? value [] t).map fun (entries, rest) => (.table (entriesData entries), rest)

def number? (t : Text) : Option (Data × Text) :=
  match moment? t with
  | some (text, rest) => some (.scalar (.text text), rest)
  | none =>
    match float? t with
    | some (f, rest) => some (.scalar (.float f), rest)
    | none => (integer? t).map fun (n, rest) => (.scalar (.integer n), rest)

def scalar? (t : Text) : Option (Data × Text) :=
  match t with
  | '"' :: _ | '\'' :: _ => (string? t).map fun (s, rest) => (.scalar (.text s), rest)
  | 't' :: _ => (Text.after? "true" t).map (.scalar (.flag true), ·)
  | 'f' :: _ => (Text.after? "false" t).map (.scalar (.flag false), ·)
  | 'i' :: _ | 'n' :: _ => (namedFloat? t).map fun (f, rest) => (.scalar (.float f), rest)
  | _ => number? t

/-- A value with at most `depth` levels of lists and inline tables. -/
def value? : Nat → Reader
  | 0, t => scalar? t
  | depth + 1, t =>
    match t with
    | '[' :: rest => (items? (value? depth) rest).map fun (ds, rest) => (.list ds, rest)
    | '{' :: rest => inlineTable? (value? depth) rest
    | t => scalar? t

inductive Statement where
  | table (path : List Text) (key : Text)
  /-- A new element of a list of tables. -/
  | element (path : List Text) (key : Text)
  | assign (path : List Text) (key : Text) (d : Data)

def header? (t : Text) : Option (Statement × Text) := do
  let ((path, key), t) ← key? t
  let t ← Text.after? [']'] t
  return (.table path key, t)

def elementHeader? (t : Text) : Option (Statement × Text) := do
  let ((path, key), t) ← key? t
  let t ← Text.after? [']', ']'] t
  return (.element path key, t)

def assignment? (t : Text) : Option (Statement × Text) := do
  let ((path, key), t) ← key? t
  let t ← Text.after? ['='] t
  let (d, t) ← value? (depthLimit - 1) (skipSpaces t)
  return (.assign path key d, t)

def statement? (t : Text) : Option (Statement × Text) :=
  match t with
  | '[' :: '[' :: rest => elementHeader? rest
  | '[' :: rest => header? rest
  | t => assignment? t

/-- Statements, each on lines of its own. -/
def statements? (t : Text) : Option (List Statement) :=
  match skipTrivia false t with
  | [] => some []
  | start =>
    match statement? start with
    | none => none
    | some (s, rest) =>
      match lineEnd? rest with
      | none => none
      | some rest =>
        if rest.length < t.length then (statements? rest).map (s :: ·) else none
termination_by t.length

/-- A document under construction: all tables, and the path of the one that assignments go to. -/
structure Draft where
  entries : Entries
  current : List Text

def Draft.add (draft : Draft) : Statement → Option Draft
  | .table path key => do
    let entries ← draft.entries.within false (fun _ => Entries.openTable key) .defined path
    return ⟨entries, path ++ [key]⟩
  | .element path key => do
    let entries ← draft.entries.within false (fun _ => Entries.openElement key) .defined path
    return ⟨entries, path ++ [key]⟩
  | .assign path key d => do
    let entries ← draft.entries.within false (fun _ => Entries.assign path key d) .defined
      draft.current
    return ⟨entries, draft.current⟩

def skipMark : Text → Text
  | c :: t => if c.toNat = 0xfeff then t else c :: t
  | [] => []

/-- The tables of a document; a byte order mark in front of it is skipped. -/
def document? (t : Text) : Option (List (Text × Data)) := do
  let statements ← statements? (skipMark t)
  let draft ← statements.foldlM Draft.add (⟨[], []⟩ : Draft)
  return entriesData draft.entries

end JspEndpoint.Settings.Toml
