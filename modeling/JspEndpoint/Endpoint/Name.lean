import JspEndpoint.Text.LetterCase

/-!
Class names from routes. The name of a page is the last segment of its route without the extension;
if it is made of words joined by underscores, the class has the capitalized words in a row.
-/

namespace JspEndpoint.Endpoint

/-- The last segment of a route, cut before its last dot. -/
def routeStem (route : Text) : Text :=
  Text.beforeLast (· = '.') (Text.afterLast (· = '/') route)

def camelize (name : Text) : Text :=
  if '_' ∈ name then
    ((Text.splitOn '_' name).filter (!·.isEmpty)).flatMap Text.capitalize
  else name

def classNameOf (route : Text) : Text := camelize (routeStem route)

end JspEndpoint.Endpoint
