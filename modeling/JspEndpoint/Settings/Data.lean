import JspEndpoint.Text.Basic

/-!
Configuration data: scalars, lists and tables, as a file states them or an override gives them.
-/

namespace JspEndpoint.Settings

inductive Scalar where
  | null
  | flag (b : Bool)
  | integer (n : Int)
  | float (f : Float)
  | text (t : Text)

inductive Data where
  | scalar (s : Scalar)
  | list (items : List Data)
  | table (entries : List (Text × Data))

end JspEndpoint.Settings
