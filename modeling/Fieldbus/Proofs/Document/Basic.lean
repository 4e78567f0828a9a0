import Fieldbus.Document.Basic
import Fieldbus.Proofs.Json.Printer
import Fieldbus.Proofs.Json.Record
import Fieldbus.Proofs.Json.Variant
import Fieldbus.Proofs.Model

/-!
# Simple values and their texts
-/
namespace Fieldbus

namespace Json

variable {α : Type} {depth : Nat} {read : Cursor → Reading (α × Cursor)} {value : Value} {a : α}

/-- The one form in which a value is printed. -/
def Printed (value : Value) (t : List Char) : Prop :=
  t = value.render

theorem Takes.printed (depth : Nat) (h : Takes (Spells depth) read value a)
    (hvalue : value.Within depth) : Takes Printed read value a := by
  rintro t rfl
  exact h _ (spells_render hvalue)

theorem takes_printed_iff : Takes Printed read value a ↔ Reads read a value.render := by
  simp [Takes, Printed]

theorem spells_printed (members : List (String × Value)) :
    SpellsItems (SpellsMember Printed) true members (renderMembers members) := by
  rw [renderMembers_eq]
  exact spellsItems_intercalate fun member _ => spellsMember_render rfl

theorem parse_of_reads {reader : Reader α} (h : Reads (reader nestingLimit) a value.render) :
    parse reader value.toText = .ok a := by
  have hparse := parseWithin_of_reads h gap_nil gap_nil
  rwa [List.nil_append, List.append_nil] at hparse

/-- An array is printed with its items in their order, and read as the list of what they are read
as. -/
theorem takes_list {item : Reader α} {toJson : α → Value} {as : List α}
    (h : ∀ a ∈ as, Takes Printed (item depth) (toJson a) a) :
    Takes Printed (listReader item (depth + 1)) (.array (as.map toJson)) as := by
  rw [takes_printed_iff, Value.render, renderItems_eq, List.map_map]
  exact reads_list (spellsItems_intercalate fun a ha => takes_printed_iff.mp (h a ha))

end Json

open Json

variable {depth : Nat}

/-- Any text is taken for a model. -/
theorem Model.takes_tag (tag : String) (inner : Nat) :
    Takes (Spells depth) (Model.reader inner) (.text tag) (Model.ofTag tag) :=
  fun t ht => (takes_string tag inner t ht).map Model.ofTag

theorem Model.takes_toJson (model : Model) (inner : Nat) :
    Takes (Spells depth) (Model.reader inner) model.toJson model := by
  have htakes := @Model.takes_tag depth model.tag inner
  rwa [Model.ofTag_tag] at htakes

theorem Command.takes_toJson (command : Command) (depth : Nat) :
    Takes Printed (Command.reader (depth + 1)) command.toJson command := by
  rw [takes_printed_iff]
  cases command with
  | statusOfChannels | levelOfChannels | singleChannelControl | statusOfScene
  | floorHeatingStatus => exact Variants.reads_name rfl (spellsText_render _) (depth + 1)
  | other code =>
      have hcode : Reads (codeReader depth) code (Value.number (.ofCode code)).render :=
        reads_code .integer depth
      exact Variants.reads_object rfl gap_nil
        (.named (spellsText_render "Other") gap_nil gap_nil (hcode.map Command.other)) gap_nil

end Fieldbus
