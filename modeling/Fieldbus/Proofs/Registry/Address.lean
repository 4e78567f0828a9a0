import Fieldbus.Proofs.Registry.FirstPacket
import Fieldbus.Proofs.Registry.Outcome
import Mathlib.Data.List.Find

/-!
# Serial numbers that follow from addresses

Where no serial number is given, it follows from the address, for packets and configurations alike.
It tells addresses apart, so the first configuration that agrees with a packet is the first one for
its address.
-/
namespace Fieldbus

/-! ## Configurations without a serial number of their own -/

/-- A configuration made from an address and a model, with any properties put in afterwards. -/
inductive Configuration.Derived : Configuration → Prop
  | fromAddress (address : Address) (model : Model) : Derived (.fromAddress address model)
  | withProperty {config} (h : Derived config) (name : String) (value : Json.Value) :
      Derived (config.withProperty name value)

variable {configs : List Configuration} {config : Configuration}

theorem Configuration.Derived.serial_eq (h : config.Derived) :
    config.serial = Serial.ofAddress config.address := by
  induction h with
  | fromAddress => rfl
  | withProperty _ _ _ ih => exact ih

theorem Configuration.Derived.normalize_serial_iff (h : config.Derived) (address : Address) :
    Serial.normalize config.serial = Serial.ofAddress address ↔ config.address = address := by
  rw [h.serial_eq, Serial.normalize_ofAddress]
  exact ⟨Serial.ofAddress_injective, congrArg Serial.ofAddress⟩

/-- Among them, looking for the serial number of an address is looking for the address. -/
theorem Device.forSerial?_ofAddress (hderived : ∀ config ∈ configs, config.Derived)
    (address : Address) :
    forSerial? (some (Serial.ofAddress address)) configs
      = (configs.find? fun config => config.address = address).map ofConfiguration := by
  rw [forSerial?_of_normalized (Serial.ofAddress_ne_empty address)
    (Serial.normalize_ofAddress address)]
  refine congrArg (Option.map ofConfiguration) (List.find?_congr fun config hconfig => ?_)
  exact decide_eq_decide.mpr ((hderived config hconfig).normalize_serial_iff address)

theorem Device.forPacket?_fromAddress (hderived : ∀ config ∈ configs, config.Derived)
    (source : Model) (command : Command) (address : Address) (data : List UInt8) :
    forPacket? (.fromAddress source command address data) configs
      = (configs.find? fun config => config.address = address).map fun config =>
          (ofConfiguration config).decode (.fromAddress source command address data) := by
  rw [forPacket?, show (Packet.fromAddress source command address data).serial
    = Serial.ofAddress address from rfl, forSerial?_ofAddress hderived, Option.map_map]
  rfl

namespace Registry

variable {r : Registry}

/-! ## Dispatch by address -/

theorem eq_ofConfigurations (hnone : r.size = 0) : r = ofConfigurations r.configurations := by
  obtain ⟨configs, devices⟩ := r
  exact congrArg (Registry.mk configs) (Dictionary.eq_of_toList (List.length_eq_zero_iff.mp hnone))

theorem resolve?_ofAddress (hderived : ∀ config ∈ r.configurations, config.Derived)
    (hnone : r.size = 0) (address : Address) :
    r.resolve? (Serial.ofAddress address)
      = (r.configurations.find? fun config => config.address = address).map fun config =>
          (.ofConfiguration config, true) := by
  rw [eq_ofConfigurations hnone, ← Serial.normalize_ofAddress address, resolve?_ofConfigurations,
    Device.forSerial?_ofAddress hderived, Option.map_map]
  rfl

theorem dispatch_fromAddress_of_absent (hderived : ∀ config ∈ r.configurations, config.Derived)
    (hnone : r.size = 0) {p : Packet} (hserial : p.serial = Serial.ofAddress p.address)
    (habsent : ∀ config ∈ r.configurations, config.address ≠ p.address) :
    r.dispatch p =
      { registry := r, outcome := .unknownDevice,
        events := [.unknown (Serial.ofAddress p.address) p.address], diagnostic := none } := by
  have hkey : Serial.normalize p.serial = Serial.ofAddress p.address := by
    rw [hserial, Serial.normalize_ofAddress]
  have hresolve : r.resolve? (Serial.normalize p.serial) = none := by
    rw [hkey, resolve?_ofAddress hderived hnone, List.find?_eq_none.mpr (by simpa using habsent)]
    rfl
  rw [dispatch_of_unknown hresolve, hkey]

theorem handled_fromAddress (hderived : ∀ config ∈ r.configurations, config.Derived)
    (hnone : r.size = 0) {p : Packet} (hserial : p.serial = Serial.ofAddress p.address)
    {config : Configuration}
    (hfirst : (r.configurations.find? fun config => config.address = p.address) = some config) :
    Handled r p (.ofConfiguration config) true
      (((Device.ofConfiguration config).decode p).1.setUpdated false) (r.dispatch p) := by
  have hresolve : r.resolve? (Serial.normalize p.serial) = some (.ofConfiguration config, true) := by
    rw [hserial, Serial.normalize_ofAddress, resolve?_ofAddress hderived hnone, hfirst]
    rfl
  have hfound := (found_of_resolve?_some (Serial.normalize_normalize p.serial) hresolve).1
  exact handled_dispatch hfound hresolve (Device.updated_ofConfiguration config)

/-- With serial numbers that follow from addresses, and no device held, a packet makes the device of
the first configuration for its address and goes to that device. With or without a registry, the
packet finds nobody exactly if no configuration has its address. -/
theorem dispatch_fromAddress (hderived : ∀ config ∈ r.configurations, config.Derived)
    (hnone : r.size = 0) (source : Model) (command : Command) (address : Address)
    (data : List UInt8) :
    let p := Packet.fromAddress source command address data
    (Device.forPacket? p r.configurations = none ↔
      ∀ config ∈ r.configurations, config.address ≠ address) ∧
    ((r.dispatch p).outcome = .unknownDevice ↔
      ∀ config ∈ r.configurations, config.address ≠ address) ∧
    ((∀ config ∈ r.configurations, config.address ≠ address) →
      r.dispatch p =
        { registry := r, outcome := .unknownDevice,
          events := [.unknown (Serial.ofAddress address) address], diagnostic := none }) ∧
    (∀ config, (r.configurations.find? fun config => config.address = address) = some config →
      Device.forPacket? p r.configurations = some ((Device.ofConfiguration config).decode p) ∧
      Handled r p (.ofConfiguration config) true
        (((Device.ofConfiguration config).decode p).1.setUpdated false) (r.dispatch p)) := by
  intro p
  have hmade := Device.forPacket?_fromAddress hderived source command address data
  cases hfirst : r.configurations.find? fun config => config.address = address with
  | none =>
      have habsent : ∀ config ∈ r.configurations, config.address ≠ address := by
        simpa using List.find?_eq_none.mp hfirst
      have hdispatch := dispatch_fromAddress_of_absent hderived hnone (p := p) rfl habsent
      refine ⟨iff_of_true ?_ habsent, iff_of_true ?_ habsent, fun _ => hdispatch, nofun⟩
      · rw [hmade, hfirst, Option.map_none]
      · rw [hdispatch]
  | some first =>
      have hpresent : ¬ ∀ config ∈ r.configurations, config.address ≠ address := by
        intro habsent
        exact habsent first (List.mem_of_find?_eq_some hfirst)
          (by simpa using List.find?_some hfirst)
      have hhandled := handled_fromAddress hderived hnone (p := p) rfl hfirst
      rw [hfirst, Option.map_some] at hmade
      refine ⟨iff_of_false ?_ hpresent, iff_of_false ?_ hpresent,
        fun habsent => absurd habsent hpresent, ?_⟩
      · rw [hmade]
        exact nofun
      · rw [hhandled.outcome]
        split <;> exact nofun
      · rintro config ⟨⟩
        exact ⟨hmade, hhandled⟩

/-- Of two configurations for one address, the first is the one that counts. -/
theorem dispatch_fromAddress_shared :
    let dimmer := Configuration.fromAddress ⟨1, 11⟩ .mdt04015
    let relays := (Configuration.fromAddress ⟨1, 10⟩ .mr0416_431).withProperty "room" (.text "hall")
    let heating := Configuration.fromAddress ⟨1, 10⟩ .mfh06
    let r := ofConfigurations [dimmer, relays, heating]
    let p := Packet.fromAddress .mr0416_431 .statusOfChannels ⟨1, 10⟩ [4, 1, 0, 0, 0]
    (∀ config ∈ r.configurations, config.Derived) ∧ r.size = 0 ∧
      Device.forPacket? p r.configurations = some ((Device.ofConfiguration relays).decode p) ∧
      (r.dispatch p).outcome ≠ .unknownDevice := by
  intro dimmer relays heating r p
  have hderived : ∀ config ∈ r.configurations, config.Derived := by
    simp only [r, ofConfigurations, List.forall_mem_cons, List.not_mem_nil, false_imp_iff,
      implies_true, and_true]
    exact ⟨.fromAddress _ _, .withProperty (.fromAddress _ _) _ _, .fromAddress _ _⟩
  obtain ⟨hmade, hunknown, -, hfirst⟩ :=
    dispatch_fromAddress hderived rfl .mr0416_431 .statusOfChannels ⟨1, 10⟩
      [4, 1, 0, 0, 0]
  refine ⟨hderived, rfl, (hfirst relays rfl).1, fun h => ?_⟩
  exact hunknown.mp h relays (by simp [r, ofConfigurations]) rfl

end Registry
end Fieldbus
