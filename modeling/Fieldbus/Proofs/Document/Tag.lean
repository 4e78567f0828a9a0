import Fieldbus.Proofs.Document.Layout
import Fieldbus.Proofs.Document.Packet

/-!
# Tags in documents

Any text may stand where the tag of a model is wanted. Once it has been read, printing and reading
do not change it any more.
-/
namespace Fieldbus.Model

open Json

/-- Apart from the invalid one, a model is what the texts name that are its tag up to white space
around them and the case of letters, and nothing else. No text names two models, so the catalogue
may be searched in any order, and the tag of the model that is found finds it again. So packets and
configurations are read with the model that the text in the place of the tag names, and are read
back from their own texts as they were. -/
theorem ofTag_unambiguous :
    (∀ text model, model ≠ .invalid → (ofTag text = model ↔ Names text model)) ∧
    (∀ text, ofTag text = .invalid ↔ ∀ model, model ≠ .invalid → ¬ Names text model) ∧
    (∀ text model other, Names text model → Names text other → model = other) ∧
    (∀ text models, models.Perm catalogue → firstNamed models text = ofTag text) ∧
    (∀ text, ofTag (ofTag text).tag = ofTag text) ∧
    (∀ (p : Packet) (tag : String),
      parse Packet.reader (Value.object (p.tagged tag)).toText = .ok (p.fromTag tag) ∧
      parse Packet.reader (p.fromTag tag).toJson.toText = .ok (p.fromTag tag)) ∧
    (∀ (entries : List Configuration.Entry) (t w w' : List Char),
      SpellsItems Configuration.Entry.Spelled true entries t → Gap w → Gap w' →
      ∃ configs, Configuration.load (String.ofList (w ++ ('[' :: (t ++ [']']) ++ w'))) = .ok configs ∧
        configs.map (·.model) = entries.map (ofTag ·.tag) ∧
        Configuration.load (Value.array (configs.map Configuration.toJson)).toText = .ok configs) := by
  refine ⟨fun _ _ => ofTag_eq_iff, fun _ => ofTag_eq_invalid_iff, fun _ _ _ => Names.unique,
    fun text models hperm => ?order, fun text => ofTag_tag (ofTag text), fun p tag => ?packet,
    fun entries t w w' ht hw hw' => ?configurations⟩
  case order =>
    exact firstNamed_eq_ofTag (fun model => hperm.mem_iff.mpr (mem_catalogue model)) text
  case packet =>
    exact ⟨parse_of_reads (Packet.reads_tagged p tag 125),
      parse_of_reads (Packet.reads_packet (p.fromTag tag) 125)⟩
  case configurations =>
    exact ⟨_, Configuration.load_of_spelled ht hw hw', List.map_map, Configuration.load_again ht⟩

end Fieldbus.Model
