import Fieldbus.Model
import Fieldbus.Proofs.Text.Letters
import Fieldbus.Proofs.Text.Trim
import Mathlib.Data.List.Nodup

/-!
# Models and their tags

No two tags of the catalogue are the same word, so a text is the tag of at most one model, and it
does not matter in which order the catalogue is searched.
-/
namespace Fieldbus.Model

open Text (SameWord)

variable {text : String} {model other : Model} {models : List Model}

/-- The text, without the white space around it, is the tag of the model up to the case of its
letters. -/
def Names (text : String) (model : Model) : Prop :=
  SameWord (Text.trim text.toList) model.tag.toList

/-! ## The catalogue -/

theorem mem_catalogue (model : Model) : model ∈ catalogue := by
  cases model <;> decide

set_option maxRecDepth 4000 in
theorem nodup_tags : (catalogue.map fun model => model.tag.toList.map Char.toLower).Nodup := by
  decide

theorem trim_tag (model : Model) : Text.trim model.tag.toList = model.tag.toList := by
  cases model <;> decide

/-- A text is the tag of at most one model. -/
theorem Names.unique (h : Names text model) (h' : Names text other) : model = other := by
  have hlower : ∀ {model}, Names text model →
      model.tag.toList.map Char.toLower = (Text.trim text.toList).map Char.toLower := fun hnames =>
    (beq_iff_eq.mp (Text.sameUpToCase_iff.mpr hnames)).symm
  exact List.inj_on_of_nodup_map nodup_tags (mem_catalogue model) (mem_catalogue other)
    ((hlower h).trans (hlower h').symm)

theorem names_tag (model : Model) : Names model.tag model := by
  rw [Names, trim_tag]
  exact .refl model.tag.toList

/-! ## Searching -/

/-- The first of some models whose tag the text is, and no model if there is none. -/
def firstNamed (models : List Model) (text : String) : Model :=
  (models.find? fun model =>
    Text.sameUpToCase model.tag.toList (Text.trim text.toList)).getD invalid

theorem sameUpToCase_tag_iff :
    Text.sameUpToCase model.tag.toList (Text.trim text.toList) = true ↔ Names text model := by
  rw [Text.sameUpToCase_iff]
  exact ⟨SameWord.symm, SameWord.symm⟩

/-- Only what the list holds matters, not its order. -/
theorem firstNamed_eq_iff (hall : ∀ model, model ∈ models) (hmodel : model ≠ invalid) :
    firstNamed models text = model ↔ Names text model := by
  rw [firstNamed]
  cases hfind : models.find? _ with
  | none =>
      have hnone := List.find?_eq_none.mp hfind model (hall model)
      exact iff_of_false (Ne.symm hmodel) (mt sameUpToCase_tag_iff.mpr hnone)
  | some found =>
      have hsame := List.find?_some hfind
      have hfound : Names text found := sameUpToCase_tag_iff.mp hsame
      constructor
      · rintro rfl
        exact hfound
      · exact hfound.unique

theorem firstNamed_eq_invalid_iff (hall : ∀ model, model ∈ models) :
    firstNamed models text = invalid ↔ ∀ model, model ≠ invalid → ¬ Names text model := by
  constructor
  · intro h model hmodel hnames
    rw [(firstNamed_eq_iff hall hmodel).mpr hnames] at h
    exact hmodel h
  · intro h
    refine Classical.byContradiction fun hne => ?_
    exact h _ hne ((firstNamed_eq_iff hall hne).mp rfl)

theorem ofTag_eq_iff (hmodel : model ≠ invalid) : ofTag text = model ↔ Names text model :=
  firstNamed_eq_iff mem_catalogue hmodel

theorem ofTag_eq_invalid_iff :
    ofTag text = invalid ↔ ∀ model, model ≠ invalid → ¬ Names text model :=
  firstNamed_eq_invalid_iff mem_catalogue

theorem firstNamed_eq_ofTag (hall : ∀ model, model ∈ models) (text : String) :
    firstNamed models text = ofTag text := by
  by_cases h : ofTag text = invalid
  · rw [h, firstNamed_eq_invalid_iff hall]
    exact ofTag_eq_invalid_iff.mp h
  · rw [firstNamed_eq_iff hall h]
    exact (ofTag_eq_iff h).mp rfl

theorem ofTag_tag (model : Model) : ofTag model.tag = model := by
  by_cases h : model = invalid
  · rw [h, ofTag_eq_invalid_iff]
    intro other hother hnames
    exact hother (hnames.unique (names_tag invalid))
  · exact (ofTag_eq_iff h).mpr (names_tag model)

end Fieldbus.Model
