import JspEndpoint.Conversion
import JspEndpoint.Decimal.Shortest
import JspEndpoint.Settings.Error
import JspEndpoint.Settings.Store

/-!
The settings of a conversion and how they are read from a store. A flag may be given as a number or a
word, a text as a flag or a number; a section may be given as the list of its fields.
-/

namespace JspEndpoint

structure Settings where
  package : Text
  embedSource : Bool
  namedComponent : Bool
  /-- Which messages are logged. -/
  level : Text
  deriving DecidableEq, Repr

namespace Settings

def options (s : Settings) : Options := ⟨s.embedSource, s.namedComponent⟩

def standard : Settings := ⟨[], true, false, "warn"⟩

def convertSection : Text := "convert"

def loggingSection : Text := "logging"

def packageField : Text := "package"

def embedSourceField : Text := "embed_source"

def namedComponentField : Text := "named_component"

def levelField : Text := "level"

/-- Settings as a store. -/
def toValue (s : Settings) : Value :=
  let text (t : Text) : Value := .scalar none (.text t)
  let flag (b : Bool) : Value := .scalar none (.flag b)
  .table none
    [(convertSection, .table none
      [(packageField, text s.package), (embedSourceField, flag s.embedSource),
        (namedComponentField, flag s.namedComponent)]),
      (loggingSection, .table none [(levelField, text s.level)])]

namespace Value

def origin : Value → Option Text
  | scalar origin _ => origin
  | list origin _ => origin
  | table origin _ => origin

def flagText (b : Bool) : Text := if b then "true" else "false"

def integerText (n : Int) : Text :=
  if n < 0 then '-' :: Text.ofNat n.natAbs else Text.ofNat n.natAbs

/-- A float with a point in it, unless it is not finite. -/
def pointedText (f : Float) : Text :=
  let t := Shortest.floatText f
  if f.isFinite ∧ '.' ∉ t then t ++ ['.', '0'] else t

/-- How a value is named in a message. -/
def described : Value → Text
  | scalar _ .null => "unit value"
  | scalar _ (.flag b) => "boolean `" ++ flagText b ++ "`"
  | scalar _ (.integer n) => "integer `" ++ integerText n ++ "`"
  | scalar _ (.float f) => "floating point `" ++ pointedText f ++ "`"
  | scalar _ (.text t) => "string " ++ Text.quoted t
  | list _ _ => "sequence"
  | table _ _ => "map"

def truths : List Text := ["1", "true", "on", "yes"]

def falsehoods : List Text := ["0", "false", "off", "no"]

def readText (key : Text) : Value → Except SettingsError Text
  | scalar _ (.text t) => .ok t
  | scalar _ (.flag b) => .ok (flagText b)
  | scalar _ (.integer n) => .ok (integerText n)
  | scalar _ (.float f) => .ok (Shortest.floatText f)
  | v => .error (.wrongType v.described "a string" key v.origin)

def readFlag (key : Text) : Value → Except SettingsError Bool
  | scalar _ (.flag b) => .ok b
  | scalar _ (.integer n) => .ok (n ≠ 0)
  | scalar _ (.float f) => .ok (f != 0.0)
  | scalar origin (.text t) =>
    let word := Text.lower t
    if word ∈ truths then .ok true
    else if word ∈ falsehoods then .ok false
    else .error (.wrongType (described (scalar origin (.text word))) "a boolean" key origin)
  | v => .error (.wrongType v.described "a boolean" key v.origin)

end Value

/-- A section: its name, the record it is read as, how many fields that has, and its value. -/
structure Section where
  name : Text
  record : Text
  fields : Nat
  value : Value

namespace Section

/-- The value of a field by its name in a table or its index in a list, and the key to it. -/
def field (s : Section) (index : Nat) (name : Text) : Except SettingsError (Text × Option Value) :=
  match s.value with
  | .table _ entries => .ok (s.name ++ ['.'] ++ name, entries.lookup name)
  | .list _ items => .ok (s.name ++ ['['] ++ Text.ofNat index ++ [']'], items[index]?)
  | v => .error (.wrongSection v.described s.record)

/-- Reads a field that may be missing. -/
def read? {α : Type} (s : Section) (reader : Text → Value → Except SettingsError α) (index : Nat)
    (name : Text) : Except SettingsError (Option α) := do
  match ← s.field index name with
  | (key, some v) => some <$> reader key v
  | (_, none) => return none

def require {α : Type} (s : Section) (name : Text) : Option α → Except SettingsError α
  | some a => .ok a
  | none =>
    match s.value with
    | .list _ items => .error (.tooShort items.length s.record s.fields)
    | _ => .error (.missing name)

end Section

def findSection (store : Value) (name record : Text) (fields : Nat) :
    Except SettingsError Section :=
  match store.get? name with
  | some v => .ok ⟨name, record, fields, v⟩
  | none => .error (.missing name)

/-- Reads settings from a store. Values of the wrong type are found before missing ones. -/
def ofValue (store : Value) : Except SettingsError Settings := do
  let convert ← findSection store convertSection "ConvertConfig" 3
  let package ← convert.read? Value.readText 0 packageField
  let embedSource ← convert.read? Value.readFlag 1 embedSourceField
  let namedComponent ← convert.read? Value.readFlag 2 namedComponentField
  let package ← convert.require packageField package
  let embedSource ← convert.require embedSourceField embedSource
  let namedComponent ← convert.require namedComponentField namedComponent
  let logging ← findSection store loggingSection "LoggingConfig" 1
  let level ← logging.read? Value.readText 0 levelField
  let level ← logging.require levelField level
  return ⟨package, embedSource, namedComponent, level⟩

end Settings

end JspEndpoint
