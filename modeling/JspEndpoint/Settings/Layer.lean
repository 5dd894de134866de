import JspEndpoint.FileTree
import JspEndpoint.Settings.Basic
import JspEndpoint.Settings.Toml.Document

/-!
Layers of settings. Files are laid over the standard settings in order, and overrides over all files
wherever they stand among the layers; of two overrides of one key the later counts.
-/

namespace JspEndpoint.Settings

inductive Layer where
  | file (path : Text)
  /-- A file that may be missing. -/
  | optionalFile (path : Text)
  | override (key : Text) (d : Data)

def extension : Text := ".toml"

/-- The path with the extension for settings after its last name; slashes and `.` after the name are
left out. -/
def withExtension? (path : Text) : Option Text :=
  let steps := (FileTree.steps path).reverse.dropWhile fun s => s.isEmpty || s = FileTree.stay
  match steps with
  | [] => none
  | name :: before =>
    if name = FileTree.above then none
    else some (['/'].intercalate ((name ++ extension) :: before).reverse)

/-- Where the file is that a path means: there, or there with the extension added. -/
def locate? (tree : FileTree) (path : Text) : Option Text :=
  if tree.isFile path then some path else (withExtension? path).filter tree.isFile

/-- How a path is given as an origin: without empty steps and `.`. -/
def originOf (path : Text) : Text :=
  ['/'].intercalate
    ((FileTree.steps path).filter fun s => !s.isEmpty && s ≠ FileTree.stay)

/-- The entries of a settings file that is there. -/
def readFile (tree : FileTree) (path : Text) : Except SettingsError (List (Text × Value)) :=
  match tree.find path with
  | .ok (.file content) =>
    match Toml.document? (Toml.skipMark content.salvaged) with
    | some entries => .ok (Value.ofEntries (some (originOf path)) entries)
    | none => .error (.malformed path)
  | _ => .error (.fileNotFound path)

/-- The entries that a layer contributes before overrides. -/
def Layer.entries (tree : FileTree) : Layer → Except SettingsError (List (Text × Value))
  | file path =>
    match locate? tree path with
    | some found => readFile tree found
    | none => .error (.fileNotFound path)
  | optionalFile path =>
    match locate? tree path with
    | some found => readFile tree found
    | none => .ok []
  | override _ _ => .ok []

abbrev Overrides := List (KeyPath × Data)

def Overrides.put (overrides : Overrides) (path : KeyPath) (d : Data) : Overrides :=
  overrides.filter (·.1 ≠ path) ++ [(path, d)]

def Layer.addOverride (overrides : Overrides) : Layer → Except SettingsError Overrides
  | override key d =>
    match KeyPath.ofText? key with
    | some path => .ok (overrides.put path d)
    | none => .error (.badKey key)
  | _ => .ok overrides

/-- Loads settings from layers. Keys of overrides are checked before any file is read. -/
def load (tree : FileTree) (layers : List Layer) : Except SettingsError Settings := do
  let overrides ← layers.foldlM Layer.addOverride []
  let store ← layers.foldlM (fun store layer => do
    return Value.setAll store (← layer.entries tree)) standard.toValue
  ofValue (overrides.foldl (fun store (path, d) => store.set path (Value.ofData none d)) store)

end JspEndpoint.Settings
