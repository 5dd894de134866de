import JspEndpoint.Text.Basic

/-!
Arguments of the command line. They are read from left to right: options may stand before and after the
file, everything after two dashes is no option, and the first argument that has no place ends the
reading. The settings file may be given before the command and after it; the one after it counts.
-/

namespace JspEndpoint.CommandLine

inductive Command where
  | convert
  | inspect
  | listFormats
  deriving DecidableEq, Repr

namespace Command

def all : List Command := [convert, inspect, listFormats]

def name : Command → Text
  | convert => "convert"
  | inspect => "inspect"
  | listFormats => "list-formats"

def ofName? (t : Text) : Option Command := all.find? (·.name = t)

/-- How many arguments that are no options the command takes. -/
def arity : Command → Nat
  | convert => 1
  | inspect => 1
  | listFormats => 0

end Command

inductive Switch where
  | config
  | package
  | route
  | className
  | output
  | format
  | namedComponent
  | noSource
  | version
  | help
  deriving DecidableEq, Repr

namespace Switch

def long : Switch → Text
  | config => "config"
  | package => "package"
  | route => "route"
  | className => "class-name"
  | output => "output"
  | format => "format"
  | namedComponent => "named-component"
  | noSource => "no-source"
  | version => "version"
  | help => "help"

def short? : Switch → Option Char
  | config => some 'c'
  | package => some 'p'
  | route => some 'r'
  | output => some 'o'
  | format => some 'f'
  | version => some 'V'
  | help => some 'h'
  | className | namedComponent | noSource => none

def takesValue : Switch → Bool
  | config | package | route | className | output | format => true
  | namedComponent | noSource | version | help => false

/-- The switches that are known before a command, and after each. -/
def known : Option Command → List Switch
  | none => [config, version, help]
  | some .convert =>
    [config, package, route, className, namedComponent, noSource, output, help]
  | some .inspect => [config, format, help]
  | some .listFormats => [config, help]

end Switch

/-- Why reading ends before a request is complete. -/
inductive Stop where
  | version
  | help
  | usage
  deriving DecidableEq, Repr

/-- What an argument is, given the switches that are known. -/
inductive Word where
  | plain (t : Text)
  /-- Two dashes. -/
  | divider
  | flag (s : Switch)
  | valued (s : Switch) (value : Text)
  /-- A switch whose value is the next argument. -/
  | pending (s : Switch)
  | unknown
  deriving DecidableEq, Repr

namespace Word

/-- A long switch, with or without a value after an equals sign. -/
def ofLong (known : List Switch) (t : Text) : Word :=
  let name := t.takeWhile (· ≠ '=')
  match known.find? (·.long = name), t.dropWhile (· ≠ '=') with
  | none, _ => unknown
  | some s, [] => if s.takesValue then pending s else flag s
  | some s, _ :: value => if s.takesValue then valued s value else unknown

/-- A short switch, with what follows its letter. -/
def ofShort (known : List Switch) (letter : Char) (rest : Text) : Word :=
  match known.find? (·.short? = some letter) with
  | none => unknown
  | some s =>
    if s.takesValue then
      match rest with
      | [] => pending s
      | '=' :: value => valued s value
      | value => valued s value
    else flag s

def ofText (known : List Switch) : Text → Word
  | ['-', '-'] => divider
  | '-' :: '-' :: t => ofLong known t
  | ['-'] => plain ['-']
  | '-' :: letter :: rest => ofShort known letter rest
  | t => plain t

end Word

/-- The arguments read so far. -/
structure Line where
  command : Option Command
  /-- The settings file given before the command. -/
  outerConfig : Option Text
  values : List (Switch × Text)
  flags : List Switch
  plain : List Text
  deriving DecidableEq, Repr

namespace Line

def empty : Line := ⟨none, none, [], [], []⟩

def value? (l : Line) (s : Switch) : Option Text := l.values.lookup s

def addValue (l : Line) (s : Switch) (value : Text) : Except Stop Line :=
  if (l.value? s).isSome then .error .usage
  else .ok { l with values := l.values ++ [(s, value)] }

def addFlag (l : Line) (s : Switch) : Except Stop Line :=
  match s with
  | .version => .error .version
  | .help => .error .help
  | s => if s ∈ l.flags then .error .usage else .ok { l with flags := l.flags ++ [s] }

/-- An argument that is no option: a command if there is none yet, else one that the command takes. -/
def addPlain (l : Line) (t : Text) : Except Stop Line :=
  match l.command with
  | none =>
    match Command.ofName? t with
    | some c => .ok ⟨some c, l.value? .config, [], [], []⟩
    | none => .error (if t = Switch.help.long then .help else .usage)
  | some c =>
    if l.plain.length < c.arity then .ok { l with plain := l.plain ++ [t] } else .error .usage

/-- What follows two dashes; commands are not among it. -/
def addRest (l : Line) (rest : List Text) : Except Stop Line :=
  match l.command with
  | none => .error .usage
  | some _ => rest.foldlM addPlain l

/-- An argument that cannot be the value of the switch before it. -/
def startsSwitch : Text → Bool
  | '-' :: _ :: _ => true
  | _ => false

def read (l : Line) : List Text → Except Stop Line
  | [] => .ok l
  | t :: rest =>
    match Word.ofText (Switch.known l.command) t with
    | .plain t => do (← l.addPlain t).read rest
    | .divider => l.addRest rest
    | .flag s => do (← l.addFlag s).read rest
    | .valued s value => do (← l.addValue s value).read rest
    | .unknown => .error .usage
    | .pending s =>
      match rest with
      | [] => .error .usage
      | value :: rest =>
        if startsSwitch value then .error .usage else do (← l.addValue s value).read rest

/-- The settings file that counts. -/
def config? (l : Line) : Option Text := (l.value? .config).or l.outerConfig

end Line

structure ConvertRequest where
  path : Text
  package : Option Text
  route : Option Text
  className : Option Text
  namedComponent : Bool
  noSource : Bool
  output : Option Text
  deriving DecidableEq, Repr

inductive Task where
  | convert (r : ConvertRequest)
  | inspect (path format : Text)
  | listFormats
  deriving DecidableEq, Repr

structure Request where
  config : Option Text
  task : Task
  deriving DecidableEq, Repr

/-- The format of an inspection that names none. -/
def standardFormat : Text := "token-simple"

def Line.task? (l : Line) : Option Task :=
  match l.command, l.plain with
  | some .convert, [path] =>
    some (.convert ⟨path, l.value? .package, l.value? .route, l.value? .className,
      .namedComponent ∈ l.flags, .noSource ∈ l.flags, l.value? .output⟩)
  | some .inspect, [path] => some (.inspect path ((l.value? .format).getD standardFormat))
  | some .listFormats, [] => some .listFormats
  | _, _ => none

def Request.ofArguments (args : List Text) : Except Stop Request := do
  let line ← Line.empty.read args
  match line.task? with
  | some task => .ok ⟨line.config?, task⟩
  | none => .error .usage

end JspEndpoint.CommandLine
