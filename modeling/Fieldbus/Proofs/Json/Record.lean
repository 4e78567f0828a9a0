import Fieldbus.Json.Record
import Fieldbus.Proofs.Json.Skip

/-!
# Reading records from objects

The members of an object fill in a draft one after the other, those that are no fields leaving it as
it is. Whether they do is told by their names and values alone; the reader then follows them through
every text that spells the object.
-/
namespace Fieldbus.Json

variable {α σ : Type} {depth : Nat} {t : List Char} {P : Value → List Char → Prop}

/-! ## Readers and values -/

/-- Every text that counts as a form of the value is read as `a`. -/
def Takes (P : Value → List Char → Prop) (read : Cursor → Reading (α × Cursor)) (value : Value)
    (a : α) : Prop :=
  ∀ t, P value t → Reads read a t

theorem Spells.scalar_inv {value : Value} (h : Spells depth value t)
    (hsequence : value.head ≠ .sequence) (hmap : value.head ≠ .map) : SpellsScalar value t := by
  cases depth with
  | zero => exact h
  | succ depth =>
      rcases h with h | h
      · exact h
      · cases h with
        | array => exact absurd rfl hsequence
        | object => exact absurd rfl hmap

theorem takes_byte (byte : UInt8) (inner : Nat) :
    Takes (Spells depth) (byteReader inner) (.number (.ofByte byte)) byte :=
  fun _ h => reads_byte (h.scalar_inv nofun nofun) inner

theorem SpellsScalar.text_inv {s : String} (h : SpellsScalar (.text s) t) : SpellsText s t := by
  cases h with
  | text h => exact h

theorem takes_string (s : String) (inner : Nat) :
    Takes (Spells depth) (stringReader inner) (.text s) s :=
  fun _ h => reads_string (h.scalar_inv nofun nofun).text_inv inner

theorem takes_some_string (s : String) (inner : Nat) :
    Takes (Spells depth) (optionalStringReader inner) (.text s) (some s) :=
  fun _ h => reads_some_string (h.scalar_inv nofun nofun).text_inv inner

theorem takes_no_string (inner : Nat) :
    Takes (Spells depth) (optionalStringReader inner) .null none :=
  fun _ h => reads_no_string (h.scalar_inv nofun nofun) inner

theorem takes_dictionary (d : Dictionary Value) :
    Takes (Spells depth) (dictionaryReader depth) (.object d.toList) d :=
  fun _ h => reads_dictionary h

theorem Takes.of_le {read : Cursor → Reading (α × Cursor)} {value : Value} {a : α} {inner : Nat}
    (hle : inner ≤ depth) (h : Takes (Spells depth) read value a) :
    Takes (Spells inner) read value a :=
  fun t ht => h t (ht.of_le hle)

theorem Takes.slot {name : String} {required : Bool} {get : σ → Option α} {put : σ → α → σ}
    {read : Reader α} {inner : Nat} {value : Value} {a : α} (h : Takes P (read inner) value a)
    (draft : σ) :
    Takes P ((Field.slot name required get put read).read draft inner) value (put draft a) :=
  fun t ht => (h t ht).map (put draft)

/-! ## Drafts -/

/-- How members change a draft, each filling in a field that is still free, or none at all. -/
inductive Fills (schema : Schema σ) (P : Value → List Char → Prop) (depth : Nat) :
    σ → List (String × Value) → σ → Prop
  | nil {draft} : Fills schema P depth draft [] draft
  | field {draft name value field next members final} :
      schema.fields.find? (fun field => field.name = name) = some field →
      field.isSet draft = false → Takes P (field.read draft depth) value next →
      Fills schema P depth next members final →
      Fills schema P depth draft ((name, value) :: members) final
  | other {draft name value members final} :
      schema.fields.find? (fun field => field.name = name) = none →
      (∀ t, P value t → Passes t) → Fills schema P depth draft members final →
      Fills schema P depth draft ((name, value) :: members) final

theorem fromMembers_append {schema : Schema σ} {draft final : σ} {members : List (String × Value)}
    (h : Fills schema P depth draft members final) (rest : List Char) :
    ∀ {first t} steps offset, SpellsItems (SpellsMember P) first members t →
      t.length < steps → ∃ offset' w, Gap w ∧
        schema.fromMembers depth steps first draft ⟨offset, t ++ '\x7d' :: rest⟩
          = schema.finish final ⟨offset', w ++ '\x7d' :: rest⟩ := by
  -- the induction is on the filling; each member takes its part of whatever text spells them
  induction h with
  | nil =>
      intro first t steps offset ht hsteps
      obtain ⟨steps, rfl⟩ := Nat.exists_eq_add_one_of_ne_zero (Nat.ne_zero_of_lt hsteps)
      cases ht with
      | nil hw =>
          refine ⟨offset, t, hw, ?_⟩
          rw [Schema.fromMembers, nextName_brace hw]
          rfl
  | @field draft name value field next members final hfind hfree htakes _ ih =>
      intro first t steps offset ht hsteps
      obtain ⟨steps, rfl⟩ := Nat.exists_eq_add_one_of_ne_zero (Nat.ne_zero_of_lt hsteps)
      cases ht with
      | @cons _ lead m t ms ts hlead hm hms =>
          have hends : Ends (ts ++ '\x7d' :: rest) := hms.ends (by simp [Ends])
          cases hm with
          | @named name a n w w' t hname hw hw' ha =>
              obtain ⟨behind, hnext⟩ := nextName_lead hlead hname
                (w ++ ':' :: (w' ++ (t ++ (ts ++ '\x7d' :: rest)))) offset
              obtain ⟨value, between, hcolon, hread⟩ :=
                reads_behind_name (htakes t ha) hw hw' hends behind
              have hfewer : ts.length < steps := by
                simp only [List.length_append, List.length_cons] at hsteps
                omega
              obtain ⟨offset', w, hw, hmembers⟩ := ih steps between hms hfewer
              refine ⟨offset', w, hw, ?_⟩
              simp only [List.append_assoc, List.cons_append, Schema.fromMembers, hnext, hfind,
                hfree, hcolon, hread, hmembers, bind, Except.bind]
              rfl
  | @other draft name value members final hfind hpasses _ ih =>
      intro first t steps offset ht hsteps
      obtain ⟨steps, rfl⟩ := Nat.exists_eq_add_one_of_ne_zero (Nat.ne_zero_of_lt hsteps)
      cases ht with
      | @cons _ lead m t ms ts hlead hm hms =>
          have hends : Ends (ts ++ '\x7d' :: rest) := hms.ends (by simp [Ends])
          cases hm with
          | @named name a n w w' t hname hw hw' ha =>
              obtain ⟨behind, hnext⟩ := nextName_lead hlead hname
                (w ++ ':' :: (w' ++ (t ++ (ts ++ '\x7d' :: rest)))) offset
              obtain ⟨between, hskip⟩ :=
                skipValue_append (hpasses t ha) hw' hends (behind + w.length + 1)
              have hfewer : ts.length < steps := by
                simp only [List.length_append, List.length_cons] at hsteps
                omega
              obtain ⟨offset', v, hv, hmembers⟩ := ih steps between hms hfewer
              refine ⟨offset', v, hv, ?_⟩
              simp only [List.append_assoc, List.cons_append, Schema.fromMembers, hnext, hfind,
                colon_append hw, hskip, hmembers, bind, Except.bind]

/-! ## Members in any order -/

section Order

variable {schema : Schema σ} {draft : List String → σ} {own others members : List (String × Value)}

/-- No field of the record has the name. -/
def Schema.Lacks (schema : Schema σ) (name : String) : Prop :=
  schema.fields.find? (fun field => field.name = name) = none

/-- Reading the member, if its name has not been read yet, takes the draft to the next one. -/
def Advances (schema : Schema σ) (P : Value → List Char → Prop) (depth : Nat)
    (draft : List String → σ) (m : String × Value) : Prop :=
  ∀ seen, m.1 ∉ seen → ∃ field, schema.fields.find? (fun field => field.name = m.1) = some field ∧
    field.isSet (draft seen) = false ∧
    Takes P (field.read (draft seen) depth) m.2 (draft (m.1 :: seen))

theorem advances_slot {name : String} {required : Bool} {get : σ → Option α} {put : σ → α → σ}
    {read : Reader α} {value : Value} {a : α}
    (hfind : schema.fields.find? (fun field => field.name = name)
      = some (.slot name required get put read))
    (htakes : Takes P (read depth) value a)
    (hdraft : ∀ seen, name ∉ seen → get (draft seen) = none ∧
      put (draft seen) a = draft (name :: seen)) :
    Advances schema P depth draft (name, value) := by
  intro seen hfresh
  obtain ⟨hfree, hnext⟩ := hdraft seen hfresh
  exact ⟨_, hfind, congrArg Option.isSome hfree, hnext ▸ htakes.slot (draft seen)⟩

theorem fills_of_apart (hP : ∀ value t, P value t → Passes t)
    (hown : ∀ m ∈ own, Advances schema P depth draft m)
    (hmembers : ∀ m ∈ members, m ∈ own ∨ schema.Lacks m.1)
    (hapart : members.Pairwise fun a b => a.1 = b.1 → schema.Lacks a.1) (seen : List String)
    (hseen : ∀ m ∈ members, m.1 ∈ seen → schema.Lacks m.1) :
    ∃ seen', seen ⊆ seen' ∧ (∀ m ∈ members, m ∈ own → m.1 ∈ seen') ∧
      Fills schema P depth (draft seen) members (draft seen') := by
  induction members generalizing seen with
  | nil => exact ⟨seen, List.Subset.refl seen, List.forall_mem_nil _, .nil⟩
  | cons m ms ih =>
      obtain ⟨hm, hms⟩ := List.forall_mem_cons.mp hmembers
      obtain ⟨hahead, hbehind⟩ := List.pairwise_cons.mp hapart
      obtain ⟨hfirst, hlater⟩ := List.forall_mem_cons.mp hseen
      by_cases hlacks : schema.Lacks m.1
      · obtain ⟨seen', hsub, hread, hfills⟩ := ih hms hbehind seen hlater
        refine ⟨seen', hsub, List.forall_mem_cons.mpr ⟨fun hmem => ?_, hread⟩,
          .other hlacks (hP m.2) hfills⟩
        obtain ⟨field, hfind, -⟩ := hown m hmem [] nofun
        exact absurd (hlacks.symm.trans hfind) nofun
      · have hfresh : m.1 ∉ seen := fun hmem => hlacks (hfirst hmem)
        have hnext : ∀ b ∈ ms, b.1 ∈ m.1 :: seen → schema.Lacks b.1 := by
          intro b hb hmem
          rcases List.mem_cons.mp hmem with heq | hmem
          · exact absurd (hahead b hb heq.symm) hlacks
          · exact hlater b hb hmem
        obtain ⟨field, hfind, hfree, htakes⟩ := hown m (hm.resolve_right hlacks) seen hfresh
        obtain ⟨seen', hsub, hread, hfills⟩ := ih hms hbehind (m.1 :: seen) hnext
        exact ⟨seen', fun name hname => hsub (List.mem_cons_of_mem m.1 hname),
          List.forall_mem_cons.mpr ⟨fun _ => hsub List.mem_cons_self, hread⟩,
          .field hfind hfree htakes hfills⟩

/-- The order of the members does not matter where the draft is told by the names that have been
read. Each field comes once, and among the members there may be any that are no fields. -/
theorem fills_of_perm (hP : ∀ value t, P value t → Passes t) (hnames : (own.map (·.1)).Nodup)
    (hown : ∀ m ∈ own, Advances schema P depth draft m)
    (hothers : ∀ m ∈ others, schema.Lacks m.1) (hperm : members.Perm (own ++ others)) :
    ∃ seen, (∀ m ∈ own, m.1 ∈ seen) ∧ Fills schema P depth (draft []) members (draft seen) := by
  have hmembers : ∀ m ∈ members, m ∈ own ∨ schema.Lacks m.1 := fun m hm =>
    (List.mem_append.mp (hperm.mem_iff.mp hm)).imp_right (hothers m)
  have hsymm : ∀ {a b : String × Value}, (a.1 = b.1 → schema.Lacks a.1) →
      b.1 = a.1 → schema.Lacks b.1 := fun h heq => heq ▸ h heq.symm
  have hapart : members.Pairwise fun a b => a.1 = b.1 → schema.Lacks a.1 := by
    refine (hperm.pairwise_iff hsymm).mpr (List.pairwise_append.mpr ⟨?_, ?_, ?_⟩)
    · exact (List.pairwise_map.mp hnames).imp fun hne heq => absurd heq hne
    · exact List.pairwise_of_forall_mem_list fun a ha _ _ _ => hothers a ha
    · exact fun a _ b hb heq => heq ▸ hothers b hb
  obtain ⟨seen, -, hread, hfills⟩ := fills_of_apart hP hown hmembers hapart [] nofun
  exact ⟨seen, fun m hm => hread m (hperm.mem_iff.mpr (List.mem_append_left others hm)) hm, hfills⟩

end Order

/-- A record is read from every text that spells an object whose members fill in a complete
draft. -/
theorem reads_record {schema : Schema σ} {draft final : σ} {members : List (String × Value)}
    (h : Fills schema P depth draft members final)
    (hcomplete : schema.fields.find? (fun field => field.required && !field.isSet final) = none)
    (ht : SpellsItems (SpellsMember P) true members t) :
    Reads (schema.reader draft (depth + 1)) final ('\x7b' :: (t ++ ['\x7d'])) where
  opens := opens_brace _
  reads {w rest} hw _ offset := by
    obtain ⟨offset', w', hw', hmembers⟩ := fromMembers_append h rest
      ((t ++ '\x7d' :: rest).length + 1) (offset + w.length + 1) ht
      (by rw [List.length_append]; omega)
    rw [Schema.finish, hcomplete] at hmembers
    refine ⟨offset' + w'.length + 1, ?_⟩
    rw [List.cons_append, List.append_assoc, Schema.reader, headReader_brace hw]
    exact inObject_of_body hw' hmembers

end Fieldbus.Json
