import Fieldbus.Packet

/-! # Why a packet left a device as it was -/
namespace Fieldbus

/-- Why a family does not take a packet. -/
inductive Refusal where
  | unhandledCommand (command : Command)
  | sceneBroadcast
  | unsupportedChannel (command : Command) (channel : UInt8)
  | channelMismatch (expected actual : UInt8)
  | malformed (error : FrameError)
  deriving DecidableEq, Repr

def Refusal.message : Refusal → String
  | unhandledCommand command => "unhandled command " ++ command.label
  | sceneBroadcast => "scene broadcast not decoded"
  | unsupportedChannel command channel =>
    "command " ++ command.label ++ " does not support channel " ++ toString channel.toNat
  | channelMismatch expected actual =>
    "packet channel is " ++ toString actual.toNat ++ " but configured channel is "
      ++ toString expected.toNat
  | malformed error => "rejected frame: " ++ error.message

/-- A report on a packet that a device did not take. -/
inductive Diagnostic where
  | refused (model : Model) (reason : Refusal)
  | unsupportedDevice (command : Command)
  deriving DecidableEq, Repr

namespace Diagnostic

def message : Diagnostic → String
  | refused model reason => "for type " ++ model.tag ++ ", " ++ reason.message
  | unsupportedDevice command => "packet " ++ command.label ++ " for unsupported device ignored"

/-- Whether the payload itself is at fault. -/
def isMalformed : Diagnostic → Bool
  | refused _ (.malformed _) => true
  | _ => false

end Diagnostic
end Fieldbus
