/-! # What a frame asks for or reports -/
namespace Fieldbus

/-- The kinds of frames that devices send. Five have a meaning here; all others are told apart by
their operation code only. -/
inductive Command where
  | statusOfChannels
  | levelOfChannels
  | singleChannelControl
  | statusOfScene
  | floorHeatingStatus
  /-- A command without a name of its own, given by its operation code. -/
  | other (code : UInt16)
  deriving DecidableEq, Repr

namespace Command

/-- Both reports on channels carry one level for each channel. -/
def isLevelReport : Command → Bool
  | statusOfChannels | levelOfChannels => true
  | _ => false

/-- A number below `2 ^ 16` as four capital hexadecimal digits. -/
def hex4 (code : UInt16) : String :=
  let digits := (Nat.toDigits 16 code.toNat).map Char.toUpper
  String.ofList (List.replicate (4 - digits.length) '0' ++ digits)

/-- The name of the command in messages. -/
def label : Command → String
  | statusOfChannels => "Response_Read_Status_of_Channels"
  | levelOfChannels => "Response_Read_Current_Level_of_Channels"
  | singleChannelControl => "Response_Single_Channel_Control"
  | statusOfScene => "Broadcast_Status_of_Scene"
  | floorHeatingStatus => "Response_Read_Floor_Heating_Status"
  | other code => "0x" ++ hex4 code

end Command
end Fieldbus
