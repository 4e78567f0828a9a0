import Fieldbus.Proofs.Text.Ascii
import Fieldbus.Proofs.Text.Padding
import Fieldbus.Serial
import Mathlib.Data.List.Forall2

/-!
# Normalized serial numbers

Normalizing settles on one form among all that differ in white space around them or in case. The
serial numbers that follow from addresses have that form already, and no two addresses share one.
-/
namespace Fieldbus.Serial

@[simp] theorem toList_normalize (serial : String) :
    (normalize serial).toList = Text.lower (Text.trim serial.toList) :=
  String.toList_ofList

/-- Normalizing again changes nothing, whatever the serial number is made of. -/
@[simp] theorem normalize_normalize (serial : String) :
    normalize (normalize serial) = normalize serial := by
  have htrim := (Text.trimmed_trim serial.toList).lower.trim_eq
  apply String.toList_inj.mp
  rw [toList_normalize, toList_normalize, htrim, Text.lower_lower]

theorem isBlank_eq_false_iff {serial : String} :
    isBlank serial = false ↔ ∃ c ∈ serial.toList, Text.isBlank c = false := by
  rw [isBlank, List.isEmpty_eq_false_iff, ne_eq, Text.trim_eq_nil_iff]
  simp only [not_forall, Bool.not_eq_true, exists_prop]

theorem normalize_of_isBlank {serial : String} (h : isBlank serial = true) :
    normalize serial = "" := by
  have htrim : Text.trim serial.toList = [] := List.isEmpty_iff.mp h
  rw [normalize, htrim]
  rfl

/-- White space around a serial number does not matter. -/
theorem normalize_pad {before after : String} (hbefore : ∀ c ∈ before.toList, Text.isBlank c = true)
    (hafter : ∀ c ∈ after.toList, Text.isBlank c = true) (serial : String) :
    normalize (before ++ serial ++ after) = normalize serial := by
  rw [normalize, String.toList_append, String.toList_append, Text.trim_pad hbefore hafter,
    normalize]

/-- Nor does the case of its letters. -/
theorem normalize_lower (serial : String) :
    normalize (String.ofList (Text.lower serial.toList)) = normalize serial := by
  rw [normalize, String.toList_ofList, Text.trim_lower, Text.lower_lower, normalize]

/-! ## Agreement -/

theorem agrees_iff {a key : String} (hkey : normalize key = key) :
    agrees a key ↔ normalize a = key := by
  rw [agrees, hkey, beq_iff_eq]

theorem agrees_iff_lower_trim {a b : String} :
    agrees a b = true ↔
      Text.lower (Text.trim a.toList) = Text.lower (Text.trim b.toList) := by
  rw [agrees, beq_iff_eq, ← String.toList_inj, toList_normalize, toList_normalize]

theorem lower_trim_of_ascii {serial : String} (h : ∀ c ∈ serial.toList, c.toNat < 128) :
    Text.lower (Text.trim serial.toList) = (Text.trim serial.toList).map Char.toLower :=
  Text.lower_of_ascii fun c hc => h c (Text.mem_of_mem_trim hc)

/-- In ASCII, serial numbers agree when what is left of them without the white space around has one
length and is equal, place by place, up to the case of the letters. -/
theorem agrees_iff_of_ascii {a b : String} (ha : ∀ c ∈ a.toList, c.toNat < 128)
    (hb : ∀ c ∈ b.toList, c.toNat < 128) :
    agrees a b = true ↔
      (Text.trim a.toList).length = (Text.trim b.toList).length ∧
      ∀ place ∈ (Text.trim a.toList).zip (Text.trim b.toList),
        place.1.toLower = place.2.toLower := by
  rw [agrees_iff_lower_trim, lower_trim_of_ascii ha, lower_trim_of_ascii hb,
    ← List.forall₂_eq_eq_eq, List.forall₂_map_left_iff, List.forall₂_map_right_iff,
    List.forall₂_iff_zip, Prod.forall]

/-- The normalized form is canonical. It is its own normalized form and stays the same with white
space around the serial number or with the number in lower case. In ASCII it tells apart whatever
differs in more than that. -/
theorem normalize_canonical :
    (∀ serial, normalize (normalize serial) = normalize serial) ∧
    (∀ before serial after : String, (∀ c ∈ before.toList, Text.isBlank c = true) →
      (∀ c ∈ after.toList, Text.isBlank c = true) →
      normalize (before ++ serial ++ after) = normalize serial) ∧
    (∀ serial, normalize (String.ofList (Text.lower serial.toList)) = normalize serial) ∧
    (∀ a b : String, (∀ c ∈ a.toList, c.toNat < 128) → (∀ c ∈ b.toList, c.toNat < 128) →
      (agrees a b = true ↔
        (Text.trim a.toList).length = (Text.trim b.toList).length ∧
        ∀ place ∈ (Text.trim a.toList).zip (Text.trim b.toList),
          place.1.toLower = place.2.toLower)) :=
  ⟨normalize_normalize, fun _ serial _ hbefore hafter => normalize_pad hbefore hafter serial,
    normalize_lower, fun _ _ => agrees_iff_of_ascii⟩

/-! ## Serial numbers that follow from an address -/

theorem toList_ofAddress (address : Address) :
    (ofAddress address).toList
      = Nat.toDigits 10 (address.subnet.toNat * 1000 + address.device.toNat) :=
  Nat.toList_repr

theorem ofAddress_ne_empty (address : Address) : ofAddress address ≠ "" := by
  intro h
  have hdigits := toList_ofAddress address
  rw [h] at hdigits
  exact Nat.toDigits_ne_nil hdigits.symm

/-- Digits are neither white space nor letters. -/
@[simp] theorem normalize_ofAddress (address : Address) :
    normalize (ofAddress address) = ofAddress address := by
  have hsettled : ∀ c ∈ (ofAddress address).toList,
      Text.lowerChar c = [c] ∧ Text.isBlank c = false := by
    intro c hc
    rw [toList_ofAddress] at hc
    exact Text.settled_of_isDigit (Nat.isDigit_of_mem_toDigits (by decide) (by decide) hc)
  have htrim : Text.trim (ofAddress address).toList = (ofAddress address).toList :=
    (Text.Trimmed.of_forall fun c hc => (hsettled c hc).2).trim_eq
  rw [← String.toList_inj, toList_normalize, htrim]
  exact Text.lowerAfter_of_settled (fun c hc => (hsettled c hc).1) []

/-- A device number is below a thousand, so subnet and device can be read off. -/
theorem ofAddress_injective {a b : Address} (h : ofAddress a = ofAddress b) : a = b := by
  have hsum : a.subnet.toNat * 1000 + a.device.toNat = b.subnet.toNat * 1000 + b.device.toNat := by
    have hread := congrArg (fun serial => Nat.ofDigitChars 10 serial.toList 0) h
    simpa only [toList_ofAddress, Nat.ofDigitChars_toDigits, Nat.reduceLT, Nat.le_refl]
      using hread
  have ha := a.device.toNat_lt
  have hb := b.device.toNat_lt
  have hsubnet : a.subnet = b.subnet := UInt8.toNat_inj.mp (by omega)
  have hdevice : a.device = b.device := UInt8.toNat_inj.mp (by omega)
  exact congrArg₂ Address.mk hsubnet hdevice

end Fieldbus.Serial
