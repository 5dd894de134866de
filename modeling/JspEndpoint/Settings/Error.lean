import JspEndpoint.Text.Quoted

/-!
What can be wrong with settings: keys that are no paths, files that are missing or malformed, and
values of the wrong type, with the file they came from.
-/

namespace JspEndpoint.Settings

inductive SettingsError where
  | badKey (key : Text)
  | fileNotFound (path : Text)
  | malformed (path : Text)
  | wrongType (found expected key : Text) (origin : Option Text)
  /-- A section that is neither a table nor a list. -/
  | wrongSection (found record : Text)
  /-- A section given as a list that does not have all fields. -/
  | tooShort (length : Nat) (record : Text) (fields : Nat)
  | missing (field : Text)
  deriving DecidableEq, Repr

def elementCount (n : Nat) : Text :=
  Text.ofNat n ++ if n = 1 then " element" else " elements"

def SettingsError.message : SettingsError → Text
  | badKey key => "no path: " ++ Text.quoted key
  | fileNotFound path => "configuration file \"" ++ path ++ "\" not found"
  | malformed path => "malformed TOML in " ++ path
  | wrongType found expected key origin =>
    "invalid type: " ++ found ++ ", expected " ++ expected ++ " for key `" ++ key ++ "`" ++
      (match origin with
        | some path => " in " ++ path
        | none => [])
  | wrongSection found record => "invalid type: " ++ found ++ ", expected struct " ++ record
  | tooShort length record fields =>
    "invalid length " ++ Text.ofNat length ++ ", expected struct " ++ record ++ " with " ++
      elementCount fields
  | missing field => "missing field `" ++ field ++ "`"

end JspEndpoint.Settings
