import JspEndpoint.CommandLine.Arguments
import JspEndpoint.Report
import JspEndpoint.Settings.Layer

/-!
What a command line does, as a function of the files that are there. A run decides first what it
prints or which file it writes, and does so last: a run that fails prints nothing on standard output
and writes nothing.
-/

namespace JspEndpoint.CommandLine

open JspEndpoint.Endpoint

/-- What is left to do at the end of a run. -/
inductive Action where
  | finish (exit : Nat) (stdout stderr : Text)
  | save (path code : Text)
  deriving DecidableEq, Repr

structure Result where
  exit : Nat
  stdout : Text
  stderr : Text
  files : FileTree
  deriving DecidableEq, Repr

namespace Action

def succeed (stdout : Text) : Action := finish 0 stdout []

def failure (context message : Text) : Text := context ++ ": " ++ message ++ "\n"

def fail (context message : Text) : Action := finish 1 [] (failure context message)

def perform (tree : FileTree) : Action → Result
  | finish exit stdout stderr => ⟨exit, stdout, stderr, tree⟩
  | save path code =>
    match tree.write path code with
    | .ok tree => ⟨0, [], [], tree⟩
    | .error e => ⟨1, [], failure "Error writing output" e.message, tree⟩

end Action

/-- The settings file that is read if it is in the working directory. -/
def localSettings : Text := "jsp2rest.toml"

def packageKey : Text := "convert.package"

def namedComponentKey : Text := "convert.named_component"

def embedSourceKey : Text := "convert.embed_source"

/-- What the switches of a conversion say about settings. -/
def ConvertRequest.overrides (r : ConvertRequest) : List Settings.Layer :=
  (r.package.map fun p => Settings.Layer.override packageKey (.scalar (.text p))).toList ++
  (if r.namedComponent then [.override namedComponentKey (.scalar (.flag true))] else []) ++
  (if r.noSource then [.override embedSourceKey (.scalar (.flag false))] else [])

def Request.layers (r : Request) : List Settings.Layer :=
  .optionalFile localSettings :: (r.config.map Settings.Layer.file).toList ++
    match r.task with
    | .convert c => c.overrides
    | _ => []

/-- The route of a page that names none: its file name, or the path if that has none. -/
def defaultRoute (path : Text) : Text := (FileTree.fileName? path).getD path

def nameClass (settings : Settings) (className : Option Text) (c : EndpointClass) :
    EndpointClass :=
  match className with
  | none => c
  | some name =>
    { c with
      className := name
      componentName :=
        if settings.namedComponent then some (componentNameOf settings.package name)
        else c.componentName }

def convertPage (tree : FileTree) (settings : Settings) (r : ConvertRequest) :
    Except ConversionError EndpointClass := do
  let route := r.route.getD (defaultRoute r.path)
  let page ← Page.openFile tree r.path settings.package route settings.options
  let c ← page.convertFile tree
  return nameClass settings r.className c

def prepareConvert (tree : FileTree) (settings : Settings) (r : ConvertRequest) : Action :=
  match convertPage tree settings r with
  | .error e => .fail "Conversion error" e.message
  | .ok c =>
    match r.output with
    | some path => .save path c.render
    | none => .succeed (c.render ++ ['\n'])

def prepareInspect (tree : FileTree) (path format : Text) : Action :=
  match Report.Format.ofName format with
  | .error e => .fail "Error" e.message
  | .ok format =>
    match Report.reportFile tree format path with
    | .error e => .fail "Execution error" e.message
    | .ok output => .succeed output

def formatList : Text :=
  Text.lines ("Available formats:" :: [] :: Report.Format.available.map fun f => ' ' :: ' ' :: f.name)

def prepareTask (tree : FileTree) (settings : Settings) : Task → Action
  | .convert r => prepareConvert tree settings r
  | .inspect path format => prepareInspect tree path format
  | .listFormats => .succeed formatList

def prepareRequest (tree : FileTree) (r : Request) : Action :=
  match Settings.load tree r.layers with
  | .error e => .fail "Configuration error" e.message
  | .ok settings => prepareTask tree settings r.task

def versionText : Text := "jsp2rest 0.1.0\n"

def usageText : Text :=
  Text.lines
    ["Convert JSP pages into stateless JAX-RS endpoint classes",
      "",
      "Usage: jsp2rest [--config FILE] COMMAND",
      "",
      "Commands:",
      "  convert PATH [--package PKG] [--route ROUTE] [--class-name NAME]",
      "               [--named-component] [--no-source] [--output FILE]",
      "  inspect PATH [--format FORMAT]",
      "  list-formats"]

def Stop.action : Stop → Action
  | .version => .succeed versionText
  | .help => .succeed usageText
  | .usage => .finish 2 [] usageText

def prepare (tree : FileTree) (args : List Text) : Action :=
  match Request.ofArguments args with
  | .error stop => stop.action
  | .ok request => prepareRequest tree request

/-- The files that a layer looks for. -/
def layerPaths : Settings.Layer → List Text
  | .file path | .optionalFile path => path :: (Settings.withExtension? path).toList
  | .override _ _ => []

def Task.paths : Task → List Text
  | .convert r => r.path :: r.output.toList
  | .inspect path _ => [path]
  | .listFormats => []

/-- The paths that a run follows. -/
def pathsOf (args : List Text) : List Text :=
  match Request.ofArguments args with
  | .error _ => []
  | .ok request => request.layers.flatMap layerPaths ++ request.task.paths

def run (tree : FileTree) (args : List Text) : Result := (prepare tree args).perform tree

end JspEndpoint.CommandLine
