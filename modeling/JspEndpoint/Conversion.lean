import JspEndpoint.Endpoint.Assembly
import JspEndpoint.Endpoint.Name
import JspEndpoint.Template.Position

/-!
Conversion of one page. Either every problem of the page is reported, in source order, or the whole
class is returned; there is no partial result. The route is checked before the page is read.
-/

namespace JspEndpoint

open JspEndpoint.Template
open JspEndpoint.Endpoint

structure Problem where
  position : Position
  message : Text
  deriving DecidableEq, Repr

def Problem.text (p : Problem) : Text := "line " ++ p.position.text ++ " " ++ p.message

inductive ConversionError where
  /-- The template cannot be read, or is not text. -/
  | unreadable (path : Text)
  | noClassName (route : Text)
  | problems (path : Text) (found : List Problem)
  deriving DecidableEq, Repr

namespace ConversionError

def message : ConversionError → Text
  | unreadable path => "failed to read template " ++ path
  | noClassName route =>
    "route path " ++ Text.quoted route ++
      " does not name a page, no class name can be derived from it"
  | problems path found =>
    "problems parsing " ++ path ++ ":\n" ++
      (("\n" : Text).intercalate (found.map fun p => "  " ++ p.text))

def found : ConversionError → List Problem
  | problems _ found => found
  | _ => []

end ConversionError

structure Options where
  /-- Quote the template after the class. -/
  embedSource : Bool
  /-- Give the component a name made of package and class. -/
  namedComponent : Bool
  deriving DecidableEq, Repr

def Options.standard : Options := ⟨true, false⟩

def componentNameOf (package className : Text) : Text := package ++ "-" ++ className

/-- A page to convert: all that is known of it before it is read. -/
structure Page where
  sourcePath : Text
  package : Text
  routePath : Text
  className : Text
  options : Options
  deriving DecidableEq, Repr

/-- The problems among the events of a template, with their positions in it. -/
def problemsOf (source : Text) (events : List Event) : List Problem :=
  events.filterMap fun e =>
    e.problem?.map fun (offset, message) => ⟨Position.ofOffset source offset, message⟩

namespace Page

def new? (sourcePath package route : Text) (options : Options) : Except ConversionError Page :=
  let className := classNameOf route
  if className.isEmpty then .error (.noClassName route)
  else .ok ⟨sourcePath, package, normalizeRoute route, className, options⟩

def componentName (p : Page) : Text := componentNameOf p.package p.className

/-- The class made of the events of a template, before the options are applied. -/
def assemble (p : Page) (events : List Event) : EndpointClass :=
  let empty := EndpointClass.new p.package p.className p.routePath p.sourcePath
  ((Assembly.start empty).addAll events).page

def applyOptions (p : Page) (source : Text) (c : EndpointClass) : EndpointClass :=
  { c with
    componentName := if p.options.namedComponent then some p.componentName else c.componentName
    sourceText := if p.options.embedSource then some source else c.sourceText }

/-- Converts a page, given its template or `none` if that cannot be read. -/
def convert (p : Page) (template : Option Text) : Except ConversionError EndpointClass :=
  match template with
  | none => .error (.unreadable p.sourcePath)
  | some source =>
    let events := recognize source
    match problemsOf source events with
    | [] => .ok (p.applyOptions source (p.assemble events))
    | problems => .error (.problems p.sourcePath problems)

end Page

end JspEndpoint
