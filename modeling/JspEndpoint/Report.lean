import JspEndpoint.PageFile
import JspEndpoint.Report.Format
import JspEndpoint.Report.Json
import JspEndpoint.Report.Yaml

/-!
Reports on the products of a conversion: the lexemes of a template, the class as data, and the class
as Java. A page is converted before the layout of the report is looked at.
-/

namespace JspEndpoint.Report

open JspEndpoint.Template
open JspEndpoint.Endpoint

inductive ReportError where
  | format (e : FormatError)
  | file (path : Text) (e : FileError)
  | conversion (e : ConversionError)
  deriving DecidableEq, Repr

def ReportError.message : ReportError → Text
  | format e => e.message
  | file path e => "IO error: " ++ path ++ ": " ++ e.message
  | conversion e => e.message

def lexemeLine (p : Placed) : Text :=
  let label := match p.lexeme.kind with
    | .ok kind => kind.label
    | .error e => "<error: " ++ e.message ++ ">"
  label ++ " " ++ Text.ofNat p.start ++ ".." ++ Text.ofNat p.stop

def reportLexemes (layout : Layout) (source : Text) : Except ReportError Text :=
  match layout with
  | .simple => .ok (Text.lines ((place 0 (scan source)).map lexemeLine))
  | .json => .ok (Json.texts ((kinds source).map Kind.name))
  | _ => .error (.format (.mismatch "token stage prints simple or json"))

def reportClass (layout : Layout) (c : EndpointClass) : Except ReportError Text :=
  match layout with
  | .json => .ok (Json.sheet (sheetOf c))
  | .yaml => .ok (Yaml.sheet (sheetOf c))
  | _ => .error (.format (.mismatch "ir stage prints json or yaml"))

/-- The last segment of a path, with either slash. -/
def routeOfPath (path : Text) : Text := Text.afterLast (fun c => c = '/' || c = '\\') path

/-- Converts a template for a report, with the route taken from its path. -/
def convertForReport (source sourcePath : Text) : Except ReportError EndpointClass :=
  match Page.new? sourcePath [] (routeOfPath sourcePath) Options.standard with
  | .error e => .error (.conversion e)
  | .ok page =>
    match page.convert (some source) with
    | .error e => .error (.conversion e)
    | .ok c => .ok c

def report (format : Format) (source sourcePath : Text) : Except ReportError Text :=
  match format.stage with
  | .token => reportLexemes format.layout source
  | .ir => do
    let c ← convertForReport source sourcePath
    reportClass format.layout c
  | .java => do
    let c ← convertForReport source sourcePath
    return c.render

def reportFile (tree : FileTree) (format : Format) (path : Text) : Except ReportError Text :=
  match tree.read path with
  | .error e => .error (.file path e)
  | .ok source => report format source path

end JspEndpoint.Report
