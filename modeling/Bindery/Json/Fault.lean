import Bindery.Json.Number
import Bindery.Text.Quoted

/-!
# Faults of a JSON text

Decoding a text fails at its first fault in reading order. Either the text is not JSON at that
place, or what stands there is JSON but not what is wanted; `Fault.message` words the second kind.
-/

namespace Bindery.Json

/-- What was found where something else was wanted. -/
inductive Found where
  | null
  | flag (value : Bool)
  | number (value : Number)
  | text (value : String)
  | sequence
  | map

def Found.describe : Found → String
  | .null => "null"
  | .flag b => s!"boolean `{b}`"
  | .number (.nonneg n) => s!"integer `{n}`"
  | .number (.negative n) => s!"integer `{n}`"
  | .number (.double x) => "floating point `" ++ Decimal.floatText x ++ "`"
  | .text s => "string " ++ Text.quote s
  | .sequence => "sequence"
  | .map => "map"

/-- Why a text could not be decoded. -/
inductive Fault where
  /-- The text is not JSON, is nested too deeply, or holds a number without a value. -/
  | malformed
  | wrongType (found : Found) (expected : String)
  /-- An integer that the wanted type does not hold. -/
  | outOfRange (found : Found) (expected : String)
  | missingField (name : String)
  | duplicateField (name : String)
  /-- A sequence of the wrong number of values. -/
  | wrongLength (count : Nat) (expected : String)
  /-- A value that its own rule rejects. -/
  | rejected (reason : String)

/-- The wording of a fault; a malformed text has none. -/
def Fault.message : Fault → Option String
  | .malformed => none
  | .wrongType found expected => s!"invalid type: {found.describe}, expected {expected}"
  | .outOfRange found expected => s!"invalid value: {found.describe}, expected {expected}"
  | .missingField name => s!"missing field `{name}`"
  | .duplicateField name => s!"duplicate field `{name}`"
  | .wrongLength count expected => s!"invalid length {count}, expected {expected}"
  | .rejected reason => reason

end Bindery.Json
