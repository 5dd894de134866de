import JspEndpoint.Conversion
import JspEndpoint.FileTree

/-!
Pages whose template is a file. A file that is not there is noticed before the route is checked; a
directory, or a file that is not text, only when the template is read.
-/

namespace JspEndpoint.Page

def openFile (tree : FileTree) (path package route : Text) (options : Options) :
    Except ConversionError Page :=
  match tree.find path with
  | .error _ => .error (.unreadable path)
  | .ok _ => new? path package route options

def convertFile (tree : FileTree) (p : Page) : Except ConversionError Endpoint.EndpointClass :=
  p.convert (tree.read p.sourcePath).toOption

end JspEndpoint.Page
