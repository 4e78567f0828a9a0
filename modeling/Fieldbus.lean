import Fieldbus.Bus
import Fieldbus.Checked
import Fieldbus.Document.Configuration
import Fieldbus.Document.Packet
import Fieldbus.Failure
import Fieldbus.Gateway
import Fieldbus.InPlace
import Fieldbus.Proofs.Codec.Tracked
import Fieldbus.Proofs.Text.Padding
import Fieldbus.Proofs.Text.Ascii
import Fieldbus.Proofs.Text.Letters
import Fieldbus.Proofs.Text.UpperCase
import Fieldbus.Proofs.Model
import Fieldbus.Proofs.Power
import Fieldbus.Proofs.Decimal.Byte
import Fieldbus.Proofs.Device.Channel
import Fieldbus.Proofs.Registry.Dispatch
import Fieldbus.Proofs.Registry.History
import Fieldbus.Proofs.Codec.RelayBank
import Fieldbus.Proofs.Codec.DimmerBank
import Fieldbus.Proofs.Codec.Thermostat
import Fieldbus.Proofs.Codec.InPlace
import Fieldbus.Proofs.Decimal.Value
import Fieldbus.Proofs.Thermostat.Run
import Fieldbus.Proofs.Device.Basic
import Fieldbus.Proofs.Device.Run
import Fieldbus.Proofs.Dictionary
import Fieldbus.Proofs.Registry.Replay
import Fieldbus.Proofs.Registry.Mirror
import Fieldbus.Proofs.Registry.Outcome
import Fieldbus.Proofs.Registry.Filing
import Fieldbus.Proofs.Device.Frames
import Fieldbus.Proofs.Registry.Lifecycle
import Fieldbus.Proofs.Json.Spelling
import Fieldbus.Proofs.Json.Scalar
import Fieldbus.Proofs.Json.Reader
import Fieldbus.Proofs.Json.Printer
import Fieldbus.Proofs.Json.Record
import Fieldbus.Proofs.Json.Variant
import Fieldbus.Proofs.Document.Basic
import Fieldbus.Proofs.Document.Packet
import Fieldbus.Proofs.Document.Layout
import Fieldbus.Proofs.Document.Tag
import Fieldbus.Proofs.Document.Configuration
import Fieldbus.Proofs.Run
import Fieldbus.Proofs.Broadcast.Numbered
import Fieldbus.Proofs.Broadcast.Log
import Fieldbus.Proofs.Registry.FirstPacket
import Fieldbus.Proofs.Broadcast.Account
import Fieldbus.Proofs.Broadcast.Ledger
import Fieldbus.Proofs.Broadcast.Delivery
import Fieldbus.Proofs.Gateway
import Fieldbus.Proofs.Codec.Reply
import Fieldbus.Proofs.Device.Shape
import Fieldbus.Proofs.RelayBank.Run
import Fieldbus.Proofs.RelayBank.Encoding
import Fieldbus.Proofs.DimmerBank.Run
import Fieldbus.Proofs.DimmerBank.Controls
import Fieldbus.Proofs.Device.Repetition
import Fieldbus.Proofs.Registry.Repetition
import Fieldbus.Proofs.Thermostat.Setters
import Fieldbus.Proofs.Device.Payload
import Fieldbus.Proofs.Device.Checked
import Fieldbus.Proofs.Registry.Address
import Fieldbus.Proofs.Registry.Order
