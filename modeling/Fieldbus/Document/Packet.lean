import Fieldbus.Document.Basic
import Fieldbus.Json.Record
import Fieldbus.Packet

/-! # The JSON form of packets -/
namespace Fieldbus.Packet

open Json

def toJson (p : Packet) : Value :=
  .object
    [("source_device_type", p.source.toJson), ("command_type", p.command.toJson),
      ("subnet", .number (.ofByte p.address.subnet)),
      ("device_id", .number (.ofByte p.address.device)), ("serial_nr", .text p.serial),
      ("data", .array (p.data.map fun byte => .number (.ofByte byte)))]

/-- A packet of which some fields have been read. -/
structure Draft where
  source : Option Model := none
  command : Option Command := none
  subnet : Option UInt8 := none
  device : Option UInt8 := none
  serial : Option String := none
  data : Option (List UInt8) := none

/-- All fields have to be there. -/
def schema : Schema Draft :=
  { title := "struct Packet"
    fields :=
      [.slot "source_device_type" true (·.source) (fun d a => { d with source := some a })
          Model.reader,
        .slot "command_type" true (·.command) (fun d a => { d with command := some a })
          Command.reader,
        .slot "subnet" true (·.subnet) (fun d a => { d with subnet := some a }) byteReader,
        .slot "device_id" true (·.device) (fun d a => { d with device := some a }) byteReader,
        .slot "serial_nr" true (·.serial) (fun d a => { d with serial := some a }) stringReader,
        .slot "data" true (·.data) (fun d a => { d with data := some a })
          (listReader byteReader)] }

/-- The packet of a draft. The schema lets no draft pass that lacks a field. -/
def Draft.packet (draft : Draft) : Packet :=
  { source := draft.source.getD .invalid
    command := draft.command.getD (.other 0)
    address := ⟨draft.subnet.getD 0, draft.device.getD 0⟩
    serial := draft.serial.getD ""
    data := draft.data.getD [] }

/-- Reads a packet. -/
def reader : Reader Packet := fun depth c => do
  let (draft, c) ← schema.reader {} depth c
  return (draft.packet, c)

end Fieldbus.Packet
