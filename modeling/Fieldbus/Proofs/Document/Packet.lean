import Fieldbus.Document.Packet
import Fieldbus.Proofs.Document.Basic

/-!
# Packets and their texts

A packet is read back from its own text as it was, whatever its command, its serial number and its
payload are.
-/
namespace Fieldbus.Packet

open Json

/-- The members under which a packet is written. -/
def members (p : Packet) : List (String × Value) :=
  [("source_device_type", p.source.toJson), ("command_type", p.command.toJson),
    ("subnet", .number (.ofByte p.address.subnet)),
    ("device_id", .number (.ofByte p.address.device)), ("serial_nr", .text p.serial),
    ("data", .array (p.data.map fun byte => .number (.ofByte byte)))]

/-- The members with any text in the place of the tag. -/
def tagged (p : Packet) (tag : String) : List (String × Value) :=
  ("source_device_type", .text tag) :: p.members.tail

/-- The packet as if it came from the model that the tag names. -/
def fromTag (p : Packet) (tag : String) : Packet :=
  { p with source := Model.ofTag tag }

theorem fromTag_tag (p : Packet) : p.fromTag p.source.tag = p := by
  rw [fromTag, Model.ofTag_tag]

/-- The draft in which every field is filled in. -/
def draft (p : Packet) : Draft :=
  { source := some p.source
    command := some p.command
    subnet := some p.address.subnet
    device := some p.address.device
    serial := some p.serial
    data := some p.data }

theorem packet_draft (p : Packet) : p.draft.packet = p := rfl

theorem takes_printed_byte (byte : UInt8) (depth : Nat) :
    Takes Printed (byteReader depth) (.number (.ofByte byte)) byte :=
  (takes_byte byte depth).printed 0 .integer

theorem fills_tagged (p : Packet) (tag : String) (depth : Nat) :
    Fills schema Printed (depth + 1) {} (p.tagged tag) (p.fromTag tag).draft :=
  .field rfl rfl (((Model.takes_tag tag _).printed 0 .text).slot _) <|
  .field rfl rfl ((p.command.takes_toJson depth).slot _) <|
  .field rfl rfl ((takes_printed_byte p.address.subnet _).slot _) <|
  .field rfl rfl ((takes_printed_byte p.address.device _).slot _) <|
  .field rfl rfl (((takes_string p.serial _).printed 0 .text).slot _) <|
  .field rfl rfl ((takes_list fun byte _ => takes_printed_byte byte depth).slot _) .nil

theorem reads_tagged (p : Packet) (tag : String) (depth : Nat) :
    Reads (reader (depth + 2)) (p.fromTag tag) (Value.object (p.tagged tag)).render := by
  have hrecord := reads_record (fills_tagged p tag depth) rfl (spells_printed (p.tagged tag))
  have hreads := hrecord.map Draft.packet
  rw [packet_draft] at hreads
  exact hreads

theorem reads_packet (p : Packet) (depth : Nat) :
    Reads (reader (depth + 2)) p p.toJson.render := by
  have hreads := reads_tagged p p.source.tag depth
  rwa [fromTag_tag] at hreads

/-- Every packet is read back from its text as it was. -/
theorem parse_toText (p : Packet) : parse reader p.toJson.toText = .ok p :=
  parse_of_reads (reads_packet p 125)

end Fieldbus.Packet
