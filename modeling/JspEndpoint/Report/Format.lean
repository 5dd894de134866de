import JspEndpoint.Text.Basic

/-!
Names of report formats. A format says which product of a conversion is reported and in which
layout; its name joins the two, and the generated class has a name of its own.
-/

namespace JspEndpoint.Report

inductive Stage where
  | token
  | ir
  | java
  deriving DecidableEq, Repr

inductive Layout where
  | simple
  | json
  | yaml
  | java
  deriving DecidableEq, Repr

structure Format where
  stage : Stage
  layout : Layout
  deriving DecidableEq, Repr

inductive FormatError where
  | unknown (name : Text)
  | unknownStage (stage : Text)
  | unknownLayout (layout : Text)
  /-- The stage has no report in that layout. -/
  | mismatch (reason : Text)
  deriving DecidableEq, Repr

def FormatError.message : FormatError → Text
  | unknown name => "Invalid format: " ++ name
  | unknownStage stage => "Invalid stage: " ++ stage
  | unknownLayout layout => "Invalid format type: " ++ layout
  | mismatch reason => "Invalid format type: " ++ reason

def Stage.name : Stage → Text
  | token => "token"
  | ir => "ir"
  | java => "java"

def Layout.name : Layout → Text
  | simple => "simple"
  | json => "json"
  | yaml => "yaml"
  | java => "java"

namespace Format

/-- The formats that can be asked for by name. -/
def available : List Format :=
  [⟨.token, .simple⟩, ⟨.token, .json⟩, ⟨.ir, .json⟩, ⟨.ir, .yaml⟩, ⟨.java, .java⟩]

def name (f : Format) : Text :=
  match f.stage with
  | .java => f.stage.name
  | stage => stage.name ++ "-" ++ f.layout.name

def stageOf (name : Text) : Except FormatError Stage :=
  if name = "token" then .ok .token
  else if name = "ir" then .ok .ir
  else .error (.unknownStage name)

def layoutOf (name : Text) : Except FormatError Layout :=
  if name = "simple" then .ok .simple
  else if name = "json" then .ok .json
  else if name = "yaml" then .ok .yaml
  else .error (.unknownLayout name)

def combine : Stage → Layout → Except FormatError Format
  | .token, .yaml => .error (.mismatch "yaml only works with the ir stage")
  | .ir, .simple => .error (.mismatch "simple only works with the token stage")
  | stage, layout => .ok ⟨stage, layout⟩

def ofName (name : Text) : Except FormatError Format :=
  if name = "java" then .ok ⟨.java, .java⟩
  else match Text.cutAt? ['-'] name with
    | none => .error (.unknown name)
    | some (stage, layout) => do
      let stage ← stageOf stage
      let layout ← layoutOf layout
      combine stage layout

end Format

end JspEndpoint.Report
