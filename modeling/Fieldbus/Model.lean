import Fieldbus.Text.Ascii
import Fieldbus.Text.Blank

/-!
# The catalogue of device models

Every model has a tag, printed on the device and used in configurations and frames, and belongs to
a family. The family says how the frames of the model are read, if at all.
-/
namespace Fieldbus

/-- The models of the catalogue. -/
inductive Model where
  | mdt0601
  | mdt04015
  | ml01
  | mpl8
  | mfh06
  | mpt04
  | mr1610
  | mr1216
  | mr1210
  | mr0816
  | mr0810
  | mr0416C
  | mr0416_231
  | mr0416_431
  | mr0410
  | mrda06
  | mrda0610
  | msp08
  | ms08
  | ms12
  | ms24
  | mw02
  /-- Stands for every model that is not in the catalogue. -/
  | invalid
  deriving DecidableEq, Repr

/-- What a device of a model controls. -/
inductive Family where
  | relay (channels : UInt8)
  | dimmer
  | floorHeating
  | unsupported
  deriving DecidableEq, Repr

namespace Model

/-- All models, in the order of the catalogue. -/
def catalogue : List Model :=
  [mdt0601, mdt04015, ml01, mpl8, mfh06, mpt04, mr1610, mr1216, mr1210, mr0816, mr0810, mr0416C,
    mr0416_231, mr0416_431, mr0410, mrda06, mrda0610, msp08, ms08, ms12, ms24, mw02, invalid]

/-- The tag as it is printed. -/
def tag : Model → String
  | mdt0601 => "MDT0601_233"
  | mdt04015 => "MDT04015_433"
  | ml01 => "ML01"
  | mpl8 => "MPL8_48_FH"
  | mfh06 => "MFH06_432"
  | mpt04 => "MPT04_48"
  | mr1610 => "MR1610_433"
  | mr1216 => "MR1216_233"
  | mr1210 => "MR1210_433"
  | mr0816 => "MR0816_432"
  | mr0810 => "MR0810_432"
  | mr0416C => "MR0416_C"
  | mr0416_231 => "MR0416_231"
  | mr0416_431 => "MR0416_431"
  | mr0410 => "MR0410_431"
  | mrda06 => "MRDA06"
  | mrda0610 => "MRDA0610_432"
  | msp08 => "MSP08M_4C"
  | ms08 => "MS08Mn_2C"
  | ms12 => "MS12_2C"
  | ms24 => "MS24"
  | mw02 => "MW02_231"
  | invalid => "Invalid"

/-- The model with a given tag. White space around the tag and the case of its letters do not
matter; a tag that is not in the catalogue names `invalid`. -/
def ofTag (text : String) : Model :=
  let wanted := Text.trim text.toList
  (catalogue.find? fun model => Text.sameUpToCase model.tag.toList wanted).getD invalid

/-- The family of a model. Most models have no frames that can be read. -/
def family : Model → Family
  | mr0416C | mr0416_231 | mr0416_431 | mr0410 => .relay 4
  | mr0816 | mr0810 => .relay 8
  | mr1216 | mr1210 => .relay 12
  | mr1610 => .relay 16
  | mdt04015 => .dimmer
  | mfh06 => .floorHeating
  | _ => .unsupported

end Model
end Fieldbus
