import JspEndpoint.Settings.Data
import JspEndpoint.Settings.KeyPath
import JspEndpoint.Text.LetterCase

/-!
Settings from several sources in one tree. A table that is set is merged entry by entry into what is
there, any other value replaces it; names of entries are kept in lower case. Every value remembers the
file it came from, merged tables come from none.
-/

namespace JspEndpoint.Settings

inductive Value where
  | scalar (origin : Option Text) (s : Scalar)
  | list (origin : Option Text) (items : List Value)
  | table (origin : Option Text) (entries : List (Text × Value))

namespace Value

def null : Value := scalar none .null

def emptyTable : Value := table none []

mutual

def ofData (origin : Option Text) : Data → Value
  | .scalar s => .scalar origin s
  | .list items => .list origin (ofItems origin items)
  | .table entries => .table origin (ofEntries origin entries)

def ofItems (origin : Option Text) : List Data → List Value
  | [] => []
  | d :: rest => ofData origin d :: ofItems origin rest

def ofEntries (origin : Option Text) : List (Text × Data) → List (Text × Value)
  | [] => []
  | (name, d) :: rest => (name, ofData origin d) :: ofEntries origin rest

end

/-- The entries of a table; any other value has none. -/
def entries : Value → List (Text × Value)
  | table _ entries => entries
  | _ => []

def items : Value → List Value
  | list _ items => items
  | _ => []

def get? (v : Value) (name : Text) : Option Value := v.entries.lookup name

def putEntry (name : Text) (v : Value) : List (Text × Value) → List (Text × Value)
  | [] => [(name, v)]
  | (n, w) :: rest => if n = name then (name, v) :: rest else (n, w) :: putEntry name v rest

/-- Changes the entry of a table; a value that is no table becomes one. -/
def updateEntry (v : Value) (name : Text) (change : Option Value → Value) : Value :=
  match v with
  | table origin entries => table origin (putEntry name (change (entries.lookup name)) entries)
  | _ => table none [(name, change none)]

mutual

/-- What stands at a name after a value is set there. -/
def merge (incoming : Value) (present : Option Value) : Value :=
  match incoming with
  | .table _ entries => mergeEntries entries (present.getD emptyTable)
  | v => v

def mergeEntries : List (Text × Value) → Value → Value
  | [], target => target
  | (name, v) :: rest, target =>
    mergeEntries rest (target.updateEntry (Text.lower name) (fun present => merge v present))

end

def setEntry (target : Value) (name : Text) (v : Value) : Value :=
  target.updateEntry (Text.lower name) (merge v)

/-- Changes an item of a list, with nulls added at the end or the front where the list is too short;
a value that is no list becomes one. -/
def updateItem (v : Value) (i : Int) (change : Option Value → Value) : Value :=
  let (origin, items) := match v with
    | list origin items => (origin, items)
    | _ => (none, [])
  let place := if 0 ≤ i then i else i + items.length
  if 0 ≤ place then
    let items := items ++ List.replicate (place.toNat + 1 - items.length) null
    list origin (items.set place.toNat (change items[place.toNat]?))
  else
    list origin (change none :: List.replicate ((-place).toNat - 1) null ++ items)

/-- Changes what a step leads to. -/
def update (v : Value) : KeyStep → (Option Value → Value) → Value
  | .child name, change => v.updateEntry (Text.lower name) change
  | .index i, change => v.updateItem i change

/-- Sets a value at the end of some steps. Tables are merged at names, and put as they are at indices. -/
def setSteps (incoming : Value) : List KeyStep → Value → Value
  | [], target => merge incoming (some target)
  | [.child name], target => target.setEntry name incoming
  | [.index i], target => target.updateItem i fun _ => incoming
  | step :: rest, target => target.update step fun present => setSteps incoming rest (present.getD null)

def set (target : Value) (path : KeyPath) (incoming : Value) : Value :=
  setSteps incoming (.child path.first :: path.steps) target

/-- Sets the entries of a file one by one. A name that reads as a path is one. -/
def setAll (target : Value) (entries : List (Text × Value)) : Value :=
  entries.foldl (fun target (name, v) =>
    match KeyPath.ofText? name with
    | some path => target.set path v
    | none => target.setEntry name v) target

end Value

end JspEndpoint.Settings
