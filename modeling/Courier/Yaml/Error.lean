import Courier.Text.Quoted
import Courier.Yaml.Fault
import Courier.Yaml.Scalar

/-!
# Errors of reading YAML

Either the text is at fault, or a value in it is not of the kind that is wanted there.  The message
for a value names the path to it and its place.
-/

namespace Courier.Yaml

/-- What was found where another kind of value was wanted. -/
inductive Found where
  | scalar (s : Scalar)
  | list
  | map

/-- How a found value is named. -/
def Found.text : Found → String
  | .scalar .null => "unit value"
  | .scalar (.bool b) => "boolean `" ++ (if b then "true" else "false") ++ "`"
  | .scalar (.unsigned n) => "integer `" ++ Text.decimal n ++ "`"
  | .scalar (.signed n) => "integer `" ++ String.ofList (Text.signedDigits n) ++ "`"
  | .scalar (.wideUnsigned n) => "integer `" ++ Text.decimal n ++ "` as u128"
  | .scalar (.wideSigned n) => "integer `" ++ String.ofList (Text.signedDigits n) ++ "` as i128"
  | .scalar (.real x) => "floating point `" ++ String.ofList x.positional ++ "`"
  | .scalar (.infinity false) => "floating point `inf`"
  | .scalar (.infinity true) => "floating point `-inf`"
  | .scalar .notANumber => "floating point `NaN`"
  | .scalar (.text s) => "string " ++ Text.quoted s
  | .list => "sequence"
  | .map => "map"

/-- What is wrong with a value. -/
inductive Misfit where
  | wrongType (found : Found) (expected : String)
  | wrongValue (found : Found) (expected : String)
  | duplicateField (name : String)

/-- The wording of a misfit. -/
def Misfit.message : Misfit → String
  | .wrongType found expected => "invalid type: " ++ found.text ++ ", expected " ++ expected
  | .wrongValue found expected => "invalid value: " ++ found.text ++ ", expected " ++ expected
  | .duplicateField name => "duplicate field `" ++ name ++ "`"

/-- The place of a value: where it starts, and the names of the fields that lead to it. -/
structure Place where
  mark : Mark
  path : List String

/-- Why a text does not give the value that is wanted. -/
inductive Error where
  | fault (f : Fault)
  | misfit (m : Misfit) (place : Option Place)
  | manyDocuments
  | ended

namespace Error

/-- Gives a misfit its place, unless it has one. -/
def locate (place : Place) : Error → Error
  | .misfit m none => .misfit m (some place)
  | e => e

/-- The path in front of a message. -/
def pathText (path : List String) : String :=
  if path = [] then "" else String.intercalate "." path ++ ": "

/-- The wording of an error. -/
def message : Error → String
  | .fault f => f.message
  | .misfit m none => m.message
  | .misfit m (some place) => pathText place.path ++ m.message ++ place.mark.suffix
  | .manyDocuments =>
    "deserializing from YAML containing more than one document is not supported"
  | .ended => "EOF while parsing a value"

end Error

end Courier.Yaml
