import Fieldbus.Document.Configuration
import Fieldbus.Proofs.Document.Basic
import Fieldbus.Proofs.Serial

/-!
# Configurations and their texts

A list of configurations is read back from its own text as it was: in the same order, with every
serial number as it stands, and with all properties.
-/
namespace Fieldbus.Configuration

open Json

variable {config : Configuration} {depth : Nat}

theorem givenSerial_of_not_blank {serial : String}
    (h : ∃ c ∈ serial.toList, Text.isBlank c = false) (address : Address) :
    givenSerial address (some serial) = serial := by
  rw [givenSerial, Option.filter_some, Serial.isBlank_eq_false_iff.mpr h]
  rfl

/-- The members under which a configuration is written. -/
def members (config : Configuration) : List (String × Value) :=
  [("subnet", .number (.ofByte config.address.subnet)),
    ("deviceId", .number (.ofByte config.address.device)), ("serialNr", .text config.serial),
    ("deviceType", config.model.toJson), ("properties", .object config.properties.toList)]

/-- The draft in which every field is filled in. -/
def draft (config : Configuration) : Draft :=
  { subnet := some config.address.subnet
    device := some config.address.device
    serial := some (some config.serial)
    model := some config.model
    properties := some config.properties }

theorem fills_draft (config : Configuration) (depth : Nat) :
    Fills schema (Spells depth) depth {} config.members config.draft :=
  .field rfl rfl ((takes_byte config.address.subnet depth).slot _) <|
  .field rfl rfl ((takes_byte config.address.device depth).slot _) <|
  .field rfl rfl ((takes_some_string config.serial depth).slot _) <|
  .field rfl rfl ((config.model.takes_toJson depth).slot _) <|
  .field rfl rfl ((takes_dictionary config.properties).slot _) .nil

theorem configuration_draft (h : ∃ c ∈ config.serial.toList, Text.isBlank c = false) :
    config.draft.configuration = config := by
  have hserial := givenSerial_of_not_blank h config.address
  simp only [draft, Draft.configuration, Option.getD_some, Option.join_some, hserial]

theorem spells_members {inner : Nat} (hinner : inner < depth)
    (h : ∀ member ∈ config.properties.toList, member.2.Within inner) :
    SpellsItems (SpellsMember (Spells depth)) true config.members
      (renderMembers config.members) := by
  have hproperties : Spells depth (.object config.properties.toList)
      (Value.object config.properties.toList).render :=
    (spells_render (.object config.properties.ordered h)).of_le hinner
  have hmembers : ∀ member ∈ config.members, Spells depth member.2 member.2.render := by
    simp only [members, List.forall_mem_cons, List.not_mem_nil, false_implies, implies_true,
      and_true]
    exact ⟨spells_render .integer, spells_render .integer, spells_render .text, spells_render .text,
      hproperties⟩
  rw [renderMembers_eq]
  exact spellsItems_intercalate fun member hmember => spellsMember_render (hmembers member hmember)

theorem reads_configuration {inner : Nat} (hinner : inner < depth)
    (hserial : ∃ c ∈ config.serial.toList, Text.isBlank c = false)
    (h : ∀ member ∈ config.properties.toList, member.2.Within inner) :
    Reads (reader (depth + 1)) config config.toJson.render := by
  have hrecord := reads_record (fills_draft config depth) rfl (spells_members hinner h)
  have hreads := hrecord.map Draft.configuration
  rw [configuration_draft hserial] at hreads
  exact hreads

/-- Configurations with serial numbers that are not blank are read back as they were, as long as
their properties hold no floating point numbers and are nested at most a hundred deep. -/
theorem load_toText (configs : List Configuration)
    (hserial : ∀ config ∈ configs, ∃ c ∈ config.serial.toList, Text.isBlank c = false)
    (h : ∀ config ∈ configs, ∀ member ∈ config.properties.toList, member.2.Within 100) :
    load (Value.array (configs.map toJson)).toText = .ok configs := by
  have hitems : SpellsItems (Reads (reader 126)) true configs
      ([','].intercalate (configs.map fun config => config.toJson.render)) :=
    spellsItems_intercalate fun config hconfig =>
      reads_configuration (by decide) (hserial config hconfig) (h config hconfig)
  have hparse := parseWithin_of_reads (reads_list hitems) gap_nil gap_nil
  have hrender : (Value.array (configs.map toJson)).render
      = [] ++ ('[' :: ([','].intercalate (configs.map fun config => config.toJson.render) ++ [']'])
        ++ []) := by
    rw [Value.render, renderItems_eq, List.map_map, List.append_nil]
    rfl
  rw [load, parse, Value.toText, hrender, nestingLimit, hparse]
  rfl

/-- A configuration with white space around its serial number, characters that are escaped, the
least and the greatest integer, and properties inside others. -/
def intricate : Configuration :=
  { address := ⟨255, 0⟩
    serial := " \"Ä\\\n\x01 "
    model := .invalid
    properties :=
      ⟨[("", .null), ("a\t\"é", .array [.number (.integer (-0x8000000000000000) (by decide)), .array [],
          .object [("k", .boolean true), ("z", .text "\x1f/😀")]]),
        ("n", .number (.integer 0xFFFFFFFFFFFFFFFF (by decide)))], by decide⟩ }

theorem load_toText_intricate :
    (∃ c ∈ intricate.serial.toList, Text.isBlank c = false) ∧
      (∀ member ∈ intricate.properties.toList, member.2.Within 100) ∧
      load (Value.array ([fromAddress ⟨1, 21⟩ .mr0410, intricate].map toJson)).toText
        = .ok [fromAddress ⟨1, 21⟩ .mr0410, intricate] := by
  have hserial : ∃ c ∈ intricate.serial.toList, Text.isBlank c = false :=
    ⟨'Ä', by decide, by decide⟩
  have hproperties : ∀ member ∈ intricate.properties.toList, member.2.Within 100 := by
    simp only [intricate, List.forall_mem_cons, List.not_mem_nil, false_implies, implies_true,
      and_true]
    refine ⟨.null, .array ?_, .integer⟩
    simp only [List.forall_mem_cons, List.not_mem_nil, false_implies, implies_true, and_true]
    refine ⟨.integer, .array (List.forall_mem_nil _), .object (by decide) ?_⟩
    simp only [List.forall_mem_cons, List.not_mem_nil, false_implies, implies_true, and_true]
    exact ⟨.boolean, .text⟩
  refine ⟨hserial, hproperties, load_toText [fromAddress ⟨1, 21⟩ .mr0410, intricate] ?_ ?_⟩
  · exact List.forall_mem_cons.mpr ⟨⟨'1', by decide +kernel, by decide⟩,
      List.forall_mem_singleton.mpr hserial⟩
  · exact List.forall_mem_cons.mpr ⟨List.forall_mem_nil _,
      List.forall_mem_singleton.mpr hproperties⟩

end Fieldbus.Configuration
