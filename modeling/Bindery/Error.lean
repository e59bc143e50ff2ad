import Bindery.Json.Fault
import Bindery.SystemError

/-!
# Errors and warnings of the compiler

Everything that can stop a run, each by its cause, and the wording of each in `Error.message`. A
warning is a message with named values, and never changes what an operation returns.
-/

namespace Bindery

/-- Why a run stopped. -/
inductive Error where
  /-- The configuration makes no sense. -/
  | config (reason : String)
  /-- A schema file could not be read. -/
  | schemaRead (path : String) (cause : SystemError)
  /-- A schema file holds no protocol description. -/
  | schemaParse (path : String) (cause : Json.Fault)
  /-- A declaration of a domain refers to a type that nothing declares. -/
  | unresolvedReference (domain declaration reference : String)
  /-- A type expression has no shape. -/
  | unsupportedShape (place kind : String)
  /-- A file or directory could not be written. -/
  | write (path : String) (cause : SystemError)
  /-- The formatter ran and failed. -/
  | formatterFailed (program path : String) (status : ExitStatus)
  /-- The formatter could not be run. -/
  | io (cause : SystemError)
  /-- A text that came from no file holds no protocol description. -/
  | json (cause : Json.Fault)

namespace Error

/-- The wording of an error; there is none where a malformed JSON text is the cause. -/
def message : Error → Option String
  | .config reason => s!"Configuration error: {reason}"
  | .schemaRead path cause => s!"Failed to read schema {path}: {cause.message}"
  | .schemaParse path cause => cause.message.map fun m => s!"Failed to parse schema {path}: {m}"
  | .unresolvedReference domain declaration reference =>
    s!"Unresolved reference '{reference}' in {domain}.{declaration}"
  | .unsupportedShape place kind => s!"Unsupported type shape '{kind}' in {place}"
  | .write path cause => s!"Failed to write {path}: {cause.message}"
  | .formatterFailed program path status =>
    s!"Formatter '{program}' failed on {path}: {status.message}"
  | .io cause => s!"IO error: {cause.message}"
  | .json cause => cause.message.map fun m => s!"JSON error: {m}"

/-- The schema is at fault. -/
def isSchemaError : Error → Bool
  | .schemaRead .. | .schemaParse .. | .unresolvedReference .. | .unsupportedShape .. => true
  | _ => false

/-- The file system is at fault. -/
def isIoError : Error → Bool
  | .write .. | .io .. => true
  | _ => false

/-- The formatter is at fault. -/
def isFormatterError : Error → Bool
  | .formatterFailed .. => true
  | _ => false

end Error

/-- A value that a warning carries. -/
inductive WarningValue where
  | text (value : String)
  | count (value : Nat)
  deriving DecidableEq, Repr

/-- Something worth telling the user that does not stop the work. -/
structure Warning where
  message : String
  details : List (String × WarningValue)
  deriving DecidableEq, Repr

end Bindery
