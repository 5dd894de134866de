import JspEndpoint.Text.Utf8

/-!
The files of a working directory as a value. A path is followed step by step from the working
directory: every step but the last needs a directory, `.` and empty steps stay, `..` goes up. Of what
lies outside the working directory only the directories on the way up are known.
-/

namespace JspEndpoint

inductive Content where
  | text (t : Text)
  /-- Bytes that are no UTF-8 text, as far as they can be read. -/
  | binary (salvaged : Text)
  deriving DecidableEq, Repr

def Content.ofBytes (bytes : ByteArray) : Content :=
  match String.fromUTF8? bytes with
  | some s => .text s.toList
  | none => .binary (Text.ofBytes (bytes.toList.map UInt8.toNat))

def Content.salvaged : Content → Text
  | text t => t
  | binary t => t

inductive Entry where
  | file (content : Content)
  | directory
  deriving DecidableEq, Repr

inductive FileError where
  | notFound
  | isDirectory
  | notDirectory
  | notText
  deriving DecidableEq, Repr

def FileError.message : FileError → Text
  | notFound => "No such file or directory (os error 2)"
  | isDirectory => "Is a directory (os error 21)"
  | notDirectory => "Not a directory (os error 20)"
  | notText => "stream did not contain valid UTF-8"

/-- Entries by their place, which is the list of names on the way from the working directory. A place
above it starts with `..`, and the root of all files is the place `/`. -/
structure FileTree where
  entries : List (List Text × Entry)
  deriving DecidableEq, Repr

namespace FileTree

/-- The root of all files. -/
def root : Text := ['/']

/-- The step that stays. -/
def stay : Text := ['.']

/-- The step that goes up. -/
def above : Text := ['.', '.']

def steps (path : Text) : List Text := Text.splitOn '/' path

def start (path : Text) : List Text := if Text.startsWith path root then [root] else []

def up (place : List Text) : List Text :=
  match place.getLast? with
  | none => [above]
  | some name =>
    if name = root then place
    else if name = above then place ++ [above]
    else place.dropLast

def add (tree : FileTree) (path : Text) (entry : Entry) : FileTree :=
  ⟨tree.entries ++ [((steps path).filter (!·.isEmpty), entry)]⟩

/-- Whether a place is a directory by itself or because something lies in it. -/
def isDirectory (tree : FileTree) (place : List Text) : Bool :=
  place.all (· = above) || place = [root] ||
    tree.entries.any fun (other, entry) =>
      if other = place then entry = .directory else place.isPrefixOf other

def entryAt? (tree : FileTree) (place : List Text) : Option Entry :=
  if tree.isDirectory place then some .directory else tree.entries.lookup place

/-- Follows steps from a place. -/
def walk (tree : FileTree) (place : List Text) : List Text → Except FileError (List Text)
  | [] => .ok place
  | step :: rest =>
    match tree.entryAt? place with
    | none => .error .notFound
    | some (.file _) => .error .notDirectory
    | some .directory =>
      if step.isEmpty ∨ step = stay then tree.walk place rest
      else if step = above then tree.walk (up place) rest
      else tree.walk (place ++ [step]) rest

/-- The places that a path leads through, if every step leads on. -/
def places (place : List Text) : List Text → List (List Text)
  | [] => [place]
  | step :: rest =>
    if step.isEmpty ∨ step = stay then places place rest
    else if step = above then place :: places (up place) rest
    else place :: places (place ++ [step]) rest

def placesOf (path : Text) : List (List Text) := places (start path) (steps path)

/-- The entry that a path names. -/
def find (tree : FileTree) (path : Text) : Except FileError Entry :=
  if path.isEmpty then .error .notFound
  else do
    let place ← tree.walk (start path) (steps path)
    match tree.entryAt? place with
    | some entry => .ok entry
    | none => .error .notFound

def read (tree : FileTree) (path : Text) : Except FileError Text := do
  match ← tree.find path with
  | .directory => .error .isDirectory
  | .file (.text t) => .ok t
  | .file (.binary _) => .error .notText

def isFile (tree : FileTree) (path : Text) : Bool :=
  match tree.find path with
  | .ok (.file _) => true
  | _ => false

/-- The steps up to the last one that is not empty, that one, and whether empty ones follow. -/
def lastStep? (path : Text) : Option (List Text × Text × Bool) :=
  let trailing := ((steps path).reverse.takeWhile List.isEmpty).length
  match (steps path).reverse.drop trailing with
  | [] => none
  | name :: before => some (before.reverse, name, trailing != 0)

/-- The place of a file that is to be written. -/
def target (tree : FileTree) (path : Text) : Except FileError (List Text) :=
  if path.isEmpty then .error .notFound
  else match lastStep? path with
    | none => .error .isDirectory
    | some (before, name, slash) => do
      let parent ← tree.walk (start path) before
      match tree.entryAt? parent with
      | none => .error .notFound
      | some (.file _) => .error .notDirectory
      | some .directory =>
        if slash ∨ name = stay ∨ name = above ∨ tree.isDirectory (parent ++ [name]) then
          .error .isDirectory
        else .ok (parent ++ [name])

/-- Writes a file, in place of one that is there. -/
def write (tree : FileTree) (path t : Text) : Except FileError FileTree := do
  let place ← tree.target path
  return ⟨(place, .file (.text t)) :: tree.entries.filter (·.1 ≠ place)⟩

/-- The last name in a path, with `.` and slashes at the end left aside; none at the root, in an empty
path and after `..`. -/
def fileName? (path : Text) : Option Text :=
  match (steps path).filter (!·.isEmpty) with
  | [] => none
  | first :: rest =>
    ((first :: rest.filter (· ≠ stay)).getLast?).filter fun name => name ≠ stay ∧ name ≠ above

end FileTree

end JspEndpoint
