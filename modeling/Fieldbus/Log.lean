/-! # Log records -/
namespace Fieldbus

/-- How much a record matters. -/
inductive LogLevel where
  | trace
  | debug
  | warn
  deriving DecidableEq, Repr

/-- A message with the values that belong to it. -/
structure LogRecord where
  level : LogLevel
  message : String
  fields : List (String × String)
  deriving DecidableEq, Repr

namespace LogRecord

def trace (message : String) (fields : List (String × String)) : LogRecord :=
  ⟨.trace, message, fields⟩

def debug (message : String) (fields : List (String × String)) : LogRecord :=
  ⟨.debug, message, fields⟩

def warn (message : String) (fields : List (String × String)) : LogRecord :=
  ⟨.warn, message, fields⟩

end LogRecord
end Fieldbus
