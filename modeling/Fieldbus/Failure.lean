import Fieldbus.Configuration
import Fieldbus.Packet
import Fieldbus.ValueError

/-! # Errors of any kind -/
namespace Fieldbus

/-- An error together with its kind. -/
inductive Failure where
  | value (error : ValueError)
  | frame (error : FrameError)
  | configuration (error : ConfigurationError)

/-- The message of the error behind the kind of it. -/
def Failure.message : Failure → String
  | value error => "value error: " ++ error.message
  | frame error => "decode error: " ++ error.message
  | configuration error => "config error: " ++ error.message

end Fieldbus
