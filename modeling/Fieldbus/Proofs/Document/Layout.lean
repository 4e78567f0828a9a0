import Fieldbus.Proofs.Document.Configuration

/-!
# Configurations in any layout

A list of configurations may be written by hand: with the members of each record in any order and
others among them, with white space anywhere, and with the serial number and the properties left
out. What is loaded depends on none of that, and no device goes without a serial number.
-/
namespace Fieldbus.Configuration

open Json

/-! ## Records -/

/-- What a record says of a device. The serial number may be left out, and it may be `null`. -/
structure Entry where
  address : Address
  tag : String
  serial : Option (Option String)
  properties : Option (Dictionary Value)

namespace Entry

variable {entry : Entry} {t : List Char}

/-- The members that the record has to have, and those that it may leave out. -/
def members (entry : Entry) : List (String × Value) :=
  [("subnet", .number (.ofByte entry.address.subnet)),
    ("deviceId", .number (.ofByte entry.address.device)), ("deviceType", .text entry.tag)]
    ++ (entry.serial.map fun serial => ("serialNr", optionToJson .text serial)).toList
    ++ (entry.properties.map fun properties => ("properties", .object properties.toList)).toList

/-- The names that mean something in a record. -/
def names : List String :=
  ["subnet", "deviceId", "serialNr", "deviceType", "properties"]

/-- The ways to write the record: an object with its members in any order, among any others under
other names. Values are nested at most a hundred deep, those of the properties not counting the
object that holds them. -/
inductive Spelled (entry : Entry) : List Char → Prop
  | object {members others t} : members.Perm (entry.members ++ others) →
      (∀ other ∈ others, other.1 ∉ names) →
      SpellsItems (SpellsMember (Spells 101)) true members t →
      Spelled entry ('\x7b' :: (t ++ ['\x7d']))

/-- The configuration that the record stands for. -/
def configuration (entry : Entry) : Configuration where
  address := entry.address
  serial :=
    match entry.serial with
    | some (some serial) =>
      if serial.toList.all Text.isBlank then Serial.ofAddress entry.address else serial
    | some none | none => Serial.ofAddress entry.address
  model := Model.ofTag entry.tag
  properties := entry.properties.getD .empty

/-! ## Reading a record -/

/-- The draft once the members under some names have been read. -/
def draft (entry : Entry) (read : List String) : Draft where
  subnet := if "subnet" ∈ read then some entry.address.subnet else none
  device := if "deviceId" ∈ read then some entry.address.device else none
  serial := if "serialNr" ∈ read then entry.serial else none
  model := if "deviceType" ∈ read then some (Model.ofTag entry.tag) else none
  properties := if "properties" ∈ read then entry.properties else none

theorem advances_members (entry : Entry) :
    ∀ m ∈ entry.members, Advances schema (Spells 101) 125 entry.draft m := by
  simp only [members, List.forall_mem_append, List.forall_mem_cons, List.not_mem_nil,
    false_implies, implies_true, and_true]
  refine ⟨⟨⟨?subnet, ?device, ?model⟩, ?serial⟩, ?properties⟩
  case subnet =>
    exact advances_slot rfl (takes_byte entry.address.subnet 125) fun seen h => by simp [draft, h]
  case device =>
    exact advances_slot rfl (takes_byte entry.address.device 125) fun seen h => by simp [draft, h]
  case model =>
    exact advances_slot rfl (Model.takes_tag entry.tag 125) fun seen h => by simp [draft, h]
  case serial =>
    cases hserial : entry.serial with
    | none => exact List.forall_mem_nil _
    | some serial =>
        refine List.forall_mem_singleton.mpr ?_
        have htakes :
            Takes (Spells 101) (optionalStringReader 125) (optionToJson .text serial) serial :=
          match serial with
          | none => takes_no_string 125
          | some serial => takes_some_string serial 125
        exact advances_slot rfl htakes fun seen h => by simp [draft, h, hserial]
  case properties =>
    cases hproperties : entry.properties with
    | none => exact List.forall_mem_nil _
    | some properties =>
        refine List.forall_mem_singleton.mpr ?_
        have htakes := (@takes_dictionary 125 properties).of_le (by decide : 101 ≤ 125)
        exact advances_slot rfl htakes fun seen h => by simp [draft, h, hproperties]

theorem nodup_members (entry : Entry) : (entry.members.map (·.1)).Nodup := by
  unfold members
  cases entry.serial <;> cases entry.properties <;> simp

theorem lacks_of_not_mem {name : String} (h : name ∉ names) : schema.Lacks name := by
  refine List.find?_eq_none.mpr fun field hfield heq => h ?_
  rw [← of_decide_eq_true heq]
  exact List.mem_map_of_mem (f := (·.name)) hfield

/-- The draft that holds all that the record says. -/
def complete (entry : Entry) : Draft where
  subnet := some entry.address.subnet
  device := some entry.address.device
  serial := entry.serial
  model := some (Model.ofTag entry.tag)
  properties := entry.properties

theorem draft_of_forall_mem {read : List String} (h : ∀ m ∈ entry.members, m.1 ∈ read) :
    entry.draft read = entry.complete := by
  simp only [members, List.forall_mem_append, List.forall_mem_cons, List.not_mem_nil,
    false_implies, implies_true, and_true] at h
  obtain ⟨⟨⟨hsubnet, hdevice, hmodel⟩, hserial⟩, hproperties⟩ := h
  have hserial : (if "serialNr" ∈ read then entry.serial else none) = entry.serial := by
    cases h : entry.serial with
    | none => exact ite_self none
    | some serial =>
        rw [h] at hserial
        exact if_pos (List.forall_mem_singleton.mp hserial)
  have hproperties :
      (if "properties" ∈ read then entry.properties else none) = entry.properties := by
    cases h : entry.properties with
    | none => exact ite_self none
    | some properties =>
        rw [h] at hproperties
        exact if_pos (List.forall_mem_singleton.mp hproperties)
  rw [draft, hserial, hproperties, if_pos hsubnet, if_pos hdevice, if_pos hmodel, complete]

theorem givenSerial_join (entry : Entry) :
    givenSerial entry.address entry.serial.join = entry.configuration.serial := by
  unfold configuration
  match entry.serial with
  | none | some none => rfl
  | some (some serial) =>
      have hblank : Serial.isBlank serial = serial.toList.all Text.isBlank := by
        rw [Bool.eq_iff_iff, Serial.isBlank, List.isEmpty_iff, Text.trim_eq_nil_iff, List.all_eq_true]
      rw [Option.join_some, givenSerial, Option.filter_some, hblank]
      dsimp only
      cases serial.toList.all Text.isBlank <;> rfl

theorem configuration_complete (entry : Entry) :
    entry.complete.configuration = entry.configuration := by
  have hserial := entry.givenSerial_join
  rw [complete, Draft.configuration]
  simp only [Option.getD_some, hserial]
  rfl

theorem reads_entry (h : entry.Spelled t) : Reads (reader 126) entry.configuration t := by
  cases h with
  | @object members others t hperm hothers ht =>
      obtain ⟨read, hread, hfills⟩ := fills_of_perm (fun _ _ => passes_value) entry.nodup_members
        entry.advances_members (fun m hm => lacks_of_not_mem (hothers m hm)) hperm
      rw [draft_of_forall_mem hread] at hfills
      have hreads := (reads_record hfills rfl ht).map Draft.configuration
      rw [configuration_complete] at hreads
      exact hreads

end Entry

/-! ## Serial numbers -/

theorem isBlank_ofAddress (address : Address) :
    Serial.isBlank (Serial.ofAddress address) = false := by
  refine Bool.not_eq_true _ ▸ fun hblank => Serial.ofAddress_ne_empty address ?_
  rw [← Serial.normalize_ofAddress, Serial.normalize_of_isBlank hblank]

theorem isBlank_givenSerial (address : Address) (given : Option String) :
    Serial.isBlank (givenSerial address given) = false := by
  unfold givenSerial
  cases h : given.filter fun serial => !Serial.isBlank serial with
  | none => exact isBlank_ofAddress address
  | some serial => simpa using (Option.filter_eq_some_iff.mp h).2

theorem isBlank_of_load {text : String} {configs : List Configuration} {config : Configuration}
    (h : load text = .ok configs) (hconfig : config ∈ configs) :
    Serial.isBlank config.serial = false := by
  obtain ⟨_, _, hlist⟩ := exists_read_of_parse (mapError_eq_ok.mp h)
  obtain ⟨_, _, _, hread⟩ := exists_read_of_mem_list hlist hconfig
  obtain ⟨⟨draft, _⟩, -, hdraft⟩ := bind_eq_ok.mp hread
  obtain ⟨rfl, -⟩ := Prod.mk.inj (Except.ok.inj hdraft)
  exact isBlank_givenSerial _ _

/-! ## Printing what has been loaded -/

theorem Entry.Spelled.within {entry : Entry} {t : List Char} (h : entry.Spelled t) :
    ∀ member ∈ entry.configuration.properties.toList, member.2.Within 100 := by
  cases h with
  | @object members others t hperm _ ht =>
      cases hproperties : entry.properties with
      | none => simp [Entry.configuration, hproperties, Dictionary.empty]
      | some properties =>
          have hmem : ("properties", .object properties.toList) ∈ members :=
            hperm.mem_iff.mpr (List.mem_append_left others (by simp [Entry.members, hproperties]))
          obtain ⟨_, hmember⟩ := ht.exists_of_mem hmem
          simp only [Entry.configuration, hproperties, Option.getD_some]
          cases hmember with
          | named _ _ _ hvalue =>
              cases within_of_spells hvalue with
              | object _ hwithin => exact hwithin

/-- What has been read from a record is read back from its printed form. -/
theorem Entry.reads_toJson {entry : Entry} {t : List Char} (h : entry.Spelled t) :
    Reads (reader 126) entry.configuration entry.configuration.toJson.render := by
  have hserial : Serial.isBlank entry.configuration.serial = false :=
    entry.givenSerial_join ▸ isBlank_givenSerial entry.address entry.serial.join
  exact reads_configuration (by decide : 100 < 125) (Serial.isBlank_eq_false_iff.mp hserial) h.within

theorem load_again {entries : List Entry} {t : List Char}
    (h : SpellsItems Entry.Spelled true entries t) :
    load (Value.array ((entries.map Entry.configuration).map toJson)).toText
      = .ok (entries.map Entry.configuration) := by
  have hreads : ∀ config ∈ entries.map Entry.configuration,
      Reads (reader 126) config config.toJson.render := by
    refine List.forall_mem_map.mpr fun entry hentry => ?_
    obtain ⟨t, ht⟩ := h.exists_of_mem hentry
    exact Entry.reads_toJson ht
  have hlist : Reads (listReader reader nestingLimit) (entries.map Entry.configuration)
      (Value.array ((entries.map Entry.configuration).map toJson)).render := by
    rw [Value.render, renderItems_eq, List.map_map]
    exact reads_list (spellsItems_intercalate hreads)
  rw [load, parse_of_reads hlist]
  rfl

/-! ## The main statement -/

theorem load_of_spelled {entries : List Entry} {t w w' : List Char}
    (h : SpellsItems Entry.Spelled true entries t) (hw : Gap w) (hw' : Gap w') :
    load (String.ofList (w ++ ('[' :: (t ++ [']']) ++ w')))
      = .ok (entries.map Entry.configuration) := by
  have hitems : SpellsItems (Reads (reader 126)) true (entries.map Entry.configuration) t :=
    h.map (f := Entry.configuration) fun _ _ => Entry.reads_entry
  rw [load, parse, nestingLimit, parseWithin_of_reads (reads_list hitems) hw hw']
  rfl

/-- A list of records is loaded in whatever layout it is written: one configuration for each record,
in their order, with the model that its tag names, the properties that it gives, and its serial
number if that has a character that is not white space. Else the serial number follows from the
address, so that nothing that is loaded, from whatever text, has a blank one. -/
theorem load_any_layout :
    (∀ (entries : List Entry) (t w w' : List Char), SpellsItems Entry.Spelled true entries t →
      Gap w → Gap w' →
      load (String.ofList (w ++ ('[' :: (t ++ [']']) ++ w')))
        = .ok (entries.map Entry.configuration)) ∧
    (∀ text configs, load text = .ok configs →
      ∀ config ∈ configs, Serial.isBlank config.serial = false) :=
  ⟨fun _ _ _ _ => load_of_spelled, fun _ _ h _ => isBlank_of_load h⟩

/-- Two records whose members stand in the opposite order, with white space around tokens. The first
has a stranger among its members, a name in escapes and `null` for its serial number; the serial
number of the second is blank. -/
theorem load_any_layout_by_hand :
    load ("[ \x7b\"note\":[null],\"serialNr\" :\tnull,\"deviceType\":\" mr0410_431 \","
        ++ "\"deviceId\":21,\"\\u0073ubnet\":1\x7d\n,\x7b\"properties\":\x7b\"channelNr\":\"3\"\x7d,"
        ++ "\"serialNr\":\"\u3000\",\"deviceType\":\"?\",\"deviceId\":7,\"subnet\":2\x7d]\n")
      = .ok [fromAddress ⟨1, 21⟩ .mr0410,
          (fromAddress ⟨2, 7⟩ .invalid).withProperty channelProperty (.text "3")] := by
  let relays : Entry := ⟨⟨1, 21⟩, " mr0410_431 ", some none, none⟩
  let heating : Entry :=
    ⟨⟨2, 7⟩, "?", some (some "\u3000"), some (Dictionary.empty.insert channelProperty (.text "3"))⟩
  have hspace : Gap [' '] := List.forall_mem_singleton.mpr rfl
  have htab : Gap ['\t'] := List.forall_mem_singleton.mpr rfl
  have hbreak : Gap ['\n'] := List.forall_mem_singleton.mpr rfl
  have htext : ∀ s, Spells 101 (.text s) (renderText s) :=
    fun s => .scalar (.text (spellsText_render s)) 101
  have hbyte : ∀ byte, Spells 101 (.number (.ofByte byte)) (renderInteger byte.toNat) :=
    fun _ => .scalar .integer 101
  have hsubnet : SpellsText "subnet" ('"' :: ("\\u0073ubnet".toList ++ ['"'])) := by
    have hletter : SpellsChar 's' "\\u0073".toList := .unit (n := 0x73) rfl rfl rfl
    exact .quoted (.cons hletter (spellsChars_escape "ubnet".toList))
  have hnote : SpellsMember (Spells 101) ("note", .array [.null]) _ :=
    .named (spellsText_render "note") gap_nil gap_nil
      (.inr (.array (.cons (.first gap_nil) (.scalar .null 100) (.nil gap_nil))))
  have hchannel : SpellsMember (Spells 100) (channelProperty, .text "3") _ :=
    .named (spellsText_render channelProperty) gap_nil gap_nil
      (.scalar (.text (spellsText_render "3")) 100)
  have hproperties : Spells 101 (.object [(channelProperty, .text "3")]) _ :=
    .inr (.object (.cons (.first gap_nil) hchannel (.nil gap_nil)))
  have hrelays : relays.Spelled _ :=
    .object (List.reverse_perm (relays.members ++ [("note", .array [.null])])) (by decide) <|
      .cons (.first gap_nil) hnote <|
      .cons (.next gap_nil gap_nil)
        (.named (spellsText_render "serialNr") hspace htab (.scalar .null 101)) <|
      .cons (.next gap_nil gap_nil)
        (.named (spellsText_render "deviceType") gap_nil gap_nil (htext " mr0410_431 ")) <|
      .cons (.next gap_nil gap_nil)
        (.named (spellsText_render "deviceId") gap_nil gap_nil (hbyte 21)) <|
      .cons (.next gap_nil gap_nil) (.named hsubnet gap_nil gap_nil (hbyte 1)) <|
      .nil gap_nil
  have hheating : heating.Spelled _ :=
    .object (List.reverse_perm (heating.members ++ [])) (List.forall_mem_nil _) <|
      .cons (.first gap_nil)
        (.named (spellsText_render "properties") gap_nil gap_nil hproperties) <|
      .cons (.next gap_nil gap_nil)
        (.named (spellsText_render "serialNr") gap_nil gap_nil (htext "\u3000")) <|
      .cons (.next gap_nil gap_nil)
        (.named (spellsText_render "deviceType") gap_nil gap_nil (htext "?")) <|
      .cons (.next gap_nil gap_nil)
        (.named (spellsText_render "deviceId") gap_nil gap_nil (hbyte 7)) <|
      .cons (.next gap_nil gap_nil)
        (.named (spellsText_render "subnet") gap_nil gap_nil (hbyte 2)) <|
      .nil gap_nil
  have hload := load_any_layout.1 [relays, heating] _ [] ['\n'] (.cons (.first hspace) hrelays
    (.cons (.next hbreak gap_nil) hheating (.nil gap_nil))) gap_nil hbreak
  refine Eq.trans (congrArg load ?_) (hload.trans (congrArg Except.ok ?_))
  · decide +kernel
  · have hrelays : relays.configuration = fromAddress ⟨1, 21⟩ .mr0410 := by
      have hmodel : Model.ofTag " mr0410_431 " = .mr0410 := by decide +kernel
      simp only [relays, Entry.configuration, fromAddress, hmodel, Option.getD_none]
    have hheating : heating.configuration
        = (fromAddress ⟨2, 7⟩ .invalid).withProperty channelProperty (.text "3") := by
      have hmodel : Model.ofTag "?" = .invalid := by decide +kernel
      have hblank : "\u3000".toList.all Text.isBlank = true := by decide +kernel
      simp only [heating, Entry.configuration, hmodel, if_pos hblank, Option.getD_some]
      rfl
    rw [List.map_cons, List.map_singleton, hrelays, hheating]

end Fieldbus.Configuration
