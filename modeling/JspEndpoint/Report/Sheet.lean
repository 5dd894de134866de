import JspEndpoint.Endpoint.Class

/-!
An endpoint class as named fields, the common ground of the structured layouts. The fields stand in
a fixed order, absent options are left out, and every part is a record that starts with its kind.
-/

namespace JspEndpoint.Report

open JspEndpoint.Endpoint

inductive Scalar where
  | text (t : Text)
  | flag (b : Bool)
  deriving DecidableEq, Repr

abbrev Record := List (Text × Scalar)

inductive Field where
  | scalar (s : Scalar)
  | records (rs : List Record)
  deriving DecidableEq, Repr

abbrev Sheet := List (Text × Field)

def recordOf (kind : Text) (fields : List (Text × Scalar)) : Record := ("kind", .text kind) :: fields

def stepRecord : BundleStep → Record
  | .lookup key var scope =>
    recordOf "bundle_variable" [("key", .text key), ("var", .text var), ("scope", .text scope)]
  | .load basename declares =>
    recordOf "bundle_set" [("basename", .text basename), ("declares_variable", .flag declares)]

def partRecord : Part → Record
  | .comment text => recordOf "comment" [("text", .text text)]
  | .importName name => recordOf "import" [("name", .text name)]
  | .declaration code => recordOf "declaration" [("code", .text code)]
  | .scriptlet code => recordOf "scriptlet" [("code", .text code)]
  | .markup content => recordOf "markup" [("content", .text content)]
  | .expression e => recordOf "expression" [("expression", .text e)]
  | .bundle step => stepRecord step

def textField (name t : Text) : Text × Field := (name, .scalar (.text t))

def optionField (name : Text) : Option Text → Sheet
  | some t => [textField name t]
  | none => []

def partsField (name : Text) (parts : List Part) : Text × Field :=
  (name, .records (parts.map partRecord))

def sheetOf (c : EndpointClass) : Sheet :=
  [textField "package" c.package, textField "class_name" c.className,
    textField "route_path" c.routePath, textField "source_path" c.sourcePath] ++
  optionField "source_text" c.sourceText ++ optionField "component_name" c.componentName ++
  [partsField "comments" (c.comments.map .comment), partsField "imports" (c.imports.map .importName),
    partsField "codes" c.codes, partsField "declarations" (c.declarations.map .declaration),
    partsField "scope_setup" (c.scopeSetup.map .bundle)]

end JspEndpoint.Report
