import JspEndpoint.Settings.Basic
import Mathlib.Data.List.Basic

/-!
Settings in a store. A store holds a value for every setting if both sections are tables in which
each setting can be read. Setting a name in a section changes the setting of that name alone, and
setting a table in a section does so for each of its names; so after any writes with values of the
right types every setting has the last value given to it, or the one it had.
-/

namespace JspEndpoint.Settings

inductive Setting where
  | package
  | embedSource
  | namedComponent
  | level
  deriving DecidableEq, Repr

namespace Setting

def all : List Setting := [package, embedSource, namedComponent, level]

theorem mem_all (x : Setting) : x ∈ all := by cases x <;> decide

/-- The section that the setting is in. -/
def home : Setting → Text
  | package | embedSource | namedComponent => convertSection
  | level => loggingSection

def field : Setting → Text
  | package => packageField
  | embedSource => embedSourceField
  | namedComponent => namedComponentField
  | level => levelField

abbrev Kind : Setting → Type
  | package | level => Text
  | embedSource | namedComponent => Bool

def get (s : Settings) : (x : Setting) → x.Kind
  | package => s.package
  | embedSource => s.embedSource
  | namedComponent => s.namedComponent
  | level => s.level

def read : (x : Setting) → Text → Value → Except SettingsError x.Kind
  | package | level => Value.readText
  | embedSource | namedComponent => Value.readFlag

/-- The value that the data stand for, if they are of the type of the setting. -/
def accept? (x : Setting) (d : Data) : Option x.Kind := (x.read [] (.ofData none d)).toOption

end Setting

/-- A value for each setting. -/
abbrev Values := (x : Setting) → x.Kind

def Values.toSettings (values : Values) : Settings :=
  ⟨values .package, values .embedSource, values .namedComponent, values .level⟩

@[simp] theorem Values.get_toSettings (values : Values) (x : Setting) :
    x.get values.toSettings = values x := by cases x <;> rfl

theorem eq_of_get {s t : Settings} (same : ∀ x : Setting, x.get s = x.get t) : s = t := by
  cases s
  cases t
  exact Settings.mk.injEq .. ▸ ⟨same .package, same .embedSource, same .namedComponent, same .level⟩

/-- The values after some of the settings are given another one. -/
def Values.after (values : Values) (given : (x : Setting) → Option x.Kind) : Values :=
  fun x => (given x).getD (values x)

theorem getLast?_filterMap_cons {α β : Type} (f : α → Option β) (a : α) (rest : List α) :
    ((a :: rest).filterMap f).getLast? = (rest.filterMap f).getLast?.or (f a) := by
  cases given : f a with
  | none => rw [List.filterMap_cons_none given, Option.or_none]
  | some b =>
    rw [List.filterMap_cons_some given, List.getLast?_cons]
    cases (rest.filterMap f).getLast? <;> rfl

theorem Values.after_cons {α : Type} (values : Values) (f : (x : Setting) → α → Option x.Kind) (a : α)
    (rest : List α) (x : Setting) :
    values.after (fun x => ((a :: rest).filterMap (f x)).getLast?) x =
      (values.after fun x => f x a).after (fun x => (rest.filterMap (f x)).getLast?) x := by
  simp only [Values.after, getLast?_filterMap_cons, Option.getD_or]

namespace Value

theorem lookup_cons_of_ne {name other : Text} (ne : other ≠ name) (v : Value)
    (entries : List (Text × Value)) :
    ((name, v) :: entries).lookup other = entries.lookup other := by
  rw [List.lookup_cons, beq_eq_false_iff_ne.2 ne]

theorem lookup_putEntry (name other : Text) (v : Value) (entries : List (Text × Value)) :
    (putEntry name v entries).lookup other =
      if other = name then some v else entries.lookup other := by
  by_cases same : other = name
  · subst same
    rw [if_pos rfl]
    induction entries with
    | nil => exact List.lookup_cons_self
    | cons e rest ih =>
      rw [putEntry]
      split
      · exact List.lookup_cons_self
      · next ne => rw [lookup_cons_of_ne (Ne.symm ne), ih]
  · rw [if_neg same]
    induction entries with
    | nil => exact lookup_cons_of_ne same v []
    | cons e rest ih =>
      obtain ⟨n, w⟩ := e
      rw [putEntry]
      split
      · next here => rw [here, lookup_cons_of_ne same, lookup_cons_of_ne same]
      · by_cases first : other = n
        · rw [first, List.lookup_cons_self, List.lookup_cons_self]
        · rw [lookup_cons_of_ne first, lookup_cons_of_ne first, ih]

theorem get?_updateEntry (v : Value) (name other : Text) (change : Option Value → Value) :
    (v.updateEntry name change).get? other =
      if other = name then some (change (v.get? name)) else v.get? other := by
  cases v with
  | table origin entries => exact lookup_putEntry name other _ entries
  | scalar origin s => by_cases same : other = name <;> simp [updateEntry, get?, entries, same]
  | list origin items => by_cases same : other = name <;> simp [updateEntry, get?, entries, same]

theorem exists_updateEntry_eq (v : Value) (name : Text) (change : Option Value → Value) :
    ∃ origin entries, v.updateEntry name change = .table origin entries := by
  cases v <;> exact ⟨_, _, rfl⟩

/-- Where a value is put in the entry that a path starts with. -/
def changeAt (path : KeyPath) (incoming : Value) (present : Option Value) : Value :=
  match path.steps with
  | [] => merge incoming present
  | steps => setSteps incoming steps (present.getD null)

theorem set_eq (store : Value) (path : KeyPath) (incoming : Value) :
    store.set path incoming =
      store.updateEntry (Text.lower path.first) (changeAt path incoming) := by
  obtain ⟨first, steps⟩ := path
  cases steps <;> rfl

end Value

/-- Values to be set at paths, in order. -/
abbrev Writes := List (KeyPath × Data)

def Writes.perform (writes : Writes) (origin : Option Text) (store : Value) : Value :=
  writes.foldl (fun store w => store.set w.1 (.ofData origin w.2)) store

/-- What a file sets: a name that reads as a path is one, any other stands for itself. -/
def Writes.ofEntries (entries : List (Text × Data)) : Writes :=
  entries.map fun e => ((KeyPath.ofText? e.1).getD ⟨e.1, []⟩, e.2)

theorem setAll_eq (store : Value) (origin : Option Text) (entries : List (Text × Data)) :
    store.setAll (Value.ofEntries origin entries) =
      (Writes.ofEntries entries).perform origin store := by
  induction entries generalizing store with
  | nil => rfl
  | cons e rest ih =>
    obtain ⟨name, d⟩ := e
    have first : store.setAll (Value.ofEntries origin ((name, d) :: rest)) =
        (store.set ((KeyPath.ofText? name).getD ⟨name, []⟩) (.ofData origin d)).setAll
          (Value.ofEntries origin rest) := by
      rw [Value.ofEntries, Value.setAll, List.foldl_cons]
      dsimp only
      cases KeyPath.ofText? name <;> rfl
    rw [first, ih]
    rfl

section Reading

variable {x : Setting} {d : Data} {k : x.Kind}

theorem isScalar_of_accept? (h : x.accept? d = some k) : ∃ s, d = .scalar s := by
  cases d with
  | scalar s => exact ⟨s, rfl⟩
  | list items => cases x <;> cases h
  | table entries => cases x <;> cases h

theorem read_of_accept? (h : x.accept? d = some k) (origin : Option Text) (key : Text) :
    x.read key (.ofData origin d) = .ok k := by
  obtain ⟨s, rfl⟩ := isScalar_of_accept? h
  have text (t : Text) (read : (Value.readText [] (.scalar none s)).toOption = some t) :
      Value.readText key (.scalar origin s) = .ok t := by
    cases s with
    | null => cases read
    | _ => exact congrArg Except.ok (Option.some.inj read)
  have flag (b : Bool) (read : (Value.readFlag [] (.scalar none s)).toOption = some b) :
      Value.readFlag key (.scalar origin s) = .ok b := by
    cases s with
    | null => cases read
    | text t =>
      simp only [Value.readFlag] at read ⊢
      split at read
      · next yes => rw [if_pos yes, Option.some.inj read]
      · next yes =>
        split at read
        · next no => rw [if_neg yes, if_pos no, Option.some.inj read]
        · cases read
    | _ => exact congrArg Except.ok (Option.some.inj read)
  cases x with
  | package | level => exact text k h
  | embedSource | namedComponent => exact flag k h

end Reading

section Fields

/-- What an entry of a section gives to a setting. -/
def fieldGiven? (home name : Text) (d : Data) (x : Setting) : Option x.Kind :=
  if x.home = home ∧ x.field = Text.lower name then x.accept? d else none

/-- Whether an entry with the name of a setting has a value of its type. -/
def fieldFits (home name : Text) (d : Data) : Bool :=
  Setting.all.all fun x =>
    !(decide (x.home = home ∧ x.field = Text.lower name)) || (x.accept? d).isSome

theorem exists_of_fieldFits {home name : Text} {d : Data} (fits : fieldFits home name d = true)
    {x : Setting} (inside : x.home = home) (named : x.field = Text.lower name) :
    ∃ k, x.accept? d = some k := by
  have own := List.all_eq_true.1 fits x x.mem_all
  rw [decide_eq_true ⟨inside, named⟩] at own
  exact Option.isSome_iff_exists.1 own

/-- A table from which every setting of a section can be read. -/
structure SectionHolds (home : Text) (v : Value) (values : Values) : Prop where
  table : ∃ origin entries, v = .table origin entries
  reads : ∀ x : Setting, x.home = home →
    ∃ w, v.get? x.field = some w ∧ ∀ key, x.read key w = .ok (values x)

namespace SectionHolds

variable {home : Text} {v : Value} {values : Values}

theorem congr (h : SectionHolds home v values) {others : Values}
    (same : ∀ x : Setting, x.home = home → others x = values x) : SectionHolds home v others where
  table := h.table
  reads x inside := by
    rw [same x inside]
    exact h.reads x inside

theorem setEntry (h : SectionHolds home v values) {name : Text} {d : Data}
    (fits : fieldFits home name d = true) (origin : Option Text) :
    SectionHolds home (v.setEntry name (.ofData origin d))
      (values.after (fieldGiven? home name d)) where
  table := Value.exists_updateEntry_eq v _ _
  reads x inside := by
    rw [Value.setEntry, Value.get?_updateEntry, Values.after, fieldGiven?]
    by_cases named : x.field = Text.lower name
    · obtain ⟨k, accepted⟩ := exists_of_fieldFits fits inside named
      obtain ⟨s, rfl⟩ := isScalar_of_accept? accepted
      rw [if_pos named, if_pos ⟨inside, named⟩, accepted]
      exact ⟨_, rfl, read_of_accept? accepted origin⟩
    · rw [if_neg named, if_neg fun both => named both.2]
      exact h.reads x inside

theorem mergeEntries (h : SectionHolds home v values) {entries : List (Text × Data)}
    (fits : entries.all (fun e => fieldFits home e.1 e.2) = true) (origin : Option Text) :
    SectionHolds home (Value.mergeEntries (Value.ofEntries origin entries) v)
      (values.after fun x => (entries.filterMap fun e => fieldGiven? home e.1 e.2 x).getLast?) := by
  induction entries generalizing v values with
  | nil => exact h
  | cons e rest ih =>
    rw [List.all_cons, Bool.and_eq_true] at fits
    have first := ih (h.setEntry fits.1 origin) fits.2
    refine first.congr fun x _ => ?_
    exact values.after_cons (fun x e => fieldGiven? home e.1 e.2 x) e rest x

end SectionHolds

end Fields

section Paths

/-- What a value at a path gives to a setting. -/
def pathGiven? (path : KeyPath) (d : Data) (x : Setting) : Option x.Kind :=
  match path.steps, d with
  | [], .table entries =>
    (entries.filterMap fun e => fieldGiven? (Text.lower path.first) e.1 e.2 x).getLast?
  | [.child name], d => fieldGiven? (Text.lower path.first) name d x
  | _, _ => none

def isSection (name : Text) : Bool := Setting.all.any fun x => x.home = name

/-- Whether a value at a path is of the right type. A section is given as a table or name by name. -/
def pathFits (path : KeyPath) (d : Data) : Bool :=
  !isSection (Text.lower path.first) ||
    match path.steps, d with
    | [], .table entries => entries.all fun e => fieldFits (Text.lower path.first) e.1 e.2
    | [.child name], d => fieldFits (Text.lower path.first) name d
    | _, _ => false

/-- What some writes give to a setting: the last of the values that they give it. -/
def Writes.given? (writes : Writes) (x : Setting) : Option x.Kind :=
  (writes.filterMap fun w => pathGiven? w.1 w.2 x).getLast?

def Writes.fit (writes : Writes) : Bool := writes.all fun w => pathFits w.1 w.2

theorem isSection_home (x : Setting) : isSection x.home = true :=
  List.any_eq_true.2 ⟨x, x.mem_all, decide_eq_true rfl⟩

theorem fieldGiven?_of_ne {home name : Text} {x : Setting} (ne : x.home ≠ home) (d : Data) :
    fieldGiven? home name d x = none := if_neg fun both => ne both.1

theorem pathGiven?_of_ne {path : KeyPath} {x : Setting} (ne : x.home ≠ Text.lower path.first)
    (d : Data) : pathGiven? path d x = none := by
  unfold pathGiven?
  split
  · rw [List.filterMap_eq_nil_iff.2 fun e _ => fieldGiven?_of_ne ne e.2]
    rfl
  · exact fieldGiven?_of_ne ne _
  · rfl

theorem SectionHolds.changeAt {path : KeyPath} {v : Value} {values : Values}
    (h : SectionHolds (Text.lower path.first) v values)
    (known : isSection (Text.lower path.first) = true) {d : Data} (fits : pathFits path d = true)
    (origin : Option Text) :
    SectionHolds (Text.lower path.first) (Value.changeAt path (.ofData origin d) (some v))
      (values.after (pathGiven? path d)) := by
  obtain ⟨first, steps⟩ := path
  unfold pathFits at fits
  rw [known, Bool.not_true, Bool.false_or] at fits
  split at fits
  · next entries none_left =>
    obtain rfl : steps = [] := none_left
    exact h.mergeEntries fits origin
  · next name one =>
    obtain rfl : steps = [.child name] := one
    exact h.setEntry fits origin
  · cases fits

/-- A store from which every setting can be read. -/
def Holds (store : Value) (values : Values) : Prop :=
  ∀ x : Setting, ∃ v, store.get? x.home = some v ∧ SectionHolds x.home v values

namespace Holds

variable {store : Value} {values : Values}

theorem congr (h : Holds store values) {others : Values} (same : ∀ x, others x = values x) :
    Holds store others :=
  fun x => (h x).imp fun _ stands => ⟨stands.1, stands.2.congr fun y _ => same y⟩

theorem set (h : Holds store values) {path : KeyPath} {d : Data} (fits : pathFits path d = true)
    (origin : Option Text) :
    Holds (store.set path (.ofData origin d)) (values.after (pathGiven? path d)) := by
  intro x
  obtain ⟨v, stands, holds⟩ := h x
  rw [Value.set_eq, Value.get?_updateEntry]
  by_cases here : x.home = Text.lower path.first
  · rw [if_pos here, ← here, stands]
    refine ⟨_, rfl, ?_⟩
    have known := isSection_home x
    rw [here] at holds known ⊢
    exact holds.changeAt known fits origin
  · rw [if_neg here]
    refine ⟨v, stands, holds.congr fun y inside => ?_⟩
    rw [Values.after, pathGiven?_of_ne (inside ▸ here) d]
    rfl

theorem perform (h : Holds store values) {writes : Writes} (fits : writes.fit = true)
    (origin : Option Text) :
    Holds (writes.perform origin store) (values.after writes.given?) := by
  induction writes generalizing store values with
  | nil => exact h
  | cons w rest ih =>
    rw [Writes.fit, List.all_cons, Bool.and_eq_true] at fits
    refine (ih (h.set fits.1 origin) fits.2).congr fun x => ?_
    exact values.after_cons (fun x (w : KeyPath × Data) => pathGiven? w.1 w.2 x) w rest x

end Holds

end Paths

section Sections

theorem holds_standard : Holds standard.toValue (Setting.get standard) := by
  intro x
  cases x with
  | level =>
    refine ⟨_, rfl, ⟨_, _, rfl⟩, fun y inside => ?_⟩
    cases y with
    | level => exact ⟨_, rfl, fun _ => rfl⟩
    | _ => exact absurd inside (by decide)
  | _ =>
    refine ⟨_, rfl, ⟨_, _, rfl⟩, fun y inside => ?_⟩
    cases y with
    | level => exact absurd inside (by decide)
    | _ => exact ⟨_, rfl, fun _ => rfl⟩

theorem Section.read?_of_table {α : Type} {s : Section} {origin : Option Text}
    {entries : List (Text × Value)} (table : s.value = .table origin entries) {name : Text} {v : Value}
    (stands : entries.lookup name = some v) {reader : Text → Value → Except SettingsError α} {a : α}
    (read : ∀ key, reader key v = .ok a) (index : Nat) :
    s.read? reader index name = .ok (some a) := by
  have found : s.field index name = .ok (s.name ++ ['.'] ++ name, some v) := by
    rw [Section.field, table, ← stands]
  rw [Section.read?, found]
  exact congrArg (some <$> ·) (read _)

theorem findSection_of_get? {store v : Value} {name : Text} (stands : store.get? name = some v)
    (record : Text) (fields : Nat) :
    findSection store name record fields = .ok ⟨name, record, fields, v⟩ := by
  rw [findSection, stands]

theorem Holds.ofValue {store : Value} {values : Values} (h : Holds store values) :
    Settings.ofValue store = .ok values.toSettings := by
  obtain ⟨_, convert_stands, ⟨origin, entries, rfl⟩, reads⟩ := h .package
  obtain ⟨_, logging_stands, ⟨origin', entries', rfl⟩, reads'⟩ := h .level
  obtain ⟨_, package_stands, package_read⟩ := reads .package rfl
  obtain ⟨_, embed_stands, embed_read⟩ := reads .embedSource rfl
  obtain ⟨_, named_stands, named_read⟩ := reads .namedComponent rfl
  obtain ⟨_, level_stands, level_read⟩ := reads' .level rfl
  let convert : Section := ⟨convertSection, "ConvertConfig", 3, .table origin entries⟩
  let logging : Section := ⟨loggingSection, "LoggingConfig", 1, .table origin' entries'⟩
  have convert_found : findSection store convertSection "ConvertConfig" 3 = .ok convert :=
    findSection_of_get? convert_stands _ _
  have logging_found : findSection store loggingSection "LoggingConfig" 1 = .ok logging :=
    findSection_of_get? logging_stands _ _
  have package : convert.read? Value.readText 0 packageField = .ok (some (values .package)) :=
    Section.read?_of_table rfl package_stands package_read 0
  have embed : convert.read? Value.readFlag 1 embedSourceField =
      .ok (some (values .embedSource)) :=
    Section.read?_of_table rfl embed_stands embed_read 1
  have named : convert.read? Value.readFlag 2 namedComponentField =
      .ok (some (values .namedComponent)) :=
    Section.read?_of_table rfl named_stands named_read 2
  have level : logging.read? Value.readText 0 levelField = .ok (some (values .level)) :=
    Section.read?_of_table rfl level_stands level_read 0
  simp only [Settings.ofValue, bind, Except.bind, convert_found, logging_found, package, embed, named,
    level, Section.require]
  rfl

end Sections

end JspEndpoint.Settings
