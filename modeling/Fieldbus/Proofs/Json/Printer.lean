import Fieldbus.Proofs.Json.Spelling

/-!
# What is printed is a written form

A printed value is one of the written forms of the value, as long as it holds no floating point
number and the members of its objects stand in the order of their names.
-/
namespace Fieldbus.Json

/-! ## Texts -/

theorem hexDigit?_digitChar : ∀ n < 16, hexDigit? (Nat.digitChar n) = some n := by
  decide

theorem hex4?_of_lt {n : Nat} (h : n < 0x20) :
    hex4? '0' '0' (Nat.digitChar (n / 16)) (Nat.digitChar (n % 16)) = some n := by
  have hzero : hexDigit? '0' = some 0 := rfl
  simp only [hex4?, hzero, hexDigit?_digitChar (n / 16) (by omega),
    hexDigit?_digitChar (n % 16) (by omega), bind, Option.bind, pure, Option.some.injEq]
  omega

theorem spellsChar_escape (c : Char) : SpellsChar c (escape c) := by
  unfold escape
  split
  case h_8 hquote hslash _ _ _ _ _ =>
    split
    · rename_i hcontrol
      have hunit := SpellsChar.unit (hex4?_of_lt hcontrol)
        (by simp [isLowSurrogate]; omega) (by simp [isHighSurrogate]; omega)
      rwa [Char.ofNat_toNat] at hunit
    · exact .plain (by omega) hquote hslash
  all_goals exact .short rfl

theorem spellsChars_escape (s : List Char) : SpellsChars s (s.flatMap escape) := by
  induction s with
  | nil => exact .nil
  | cons c s ih =>
      rw [List.flatMap_cons]
      exact .cons (spellsChar_escape c) ih

theorem spellsText_render (s : String) : SpellsText s (renderText s) :=
  .quoted (spellsChars_escape s.toList)

/-! ## Lists of items -/

section Items

variable {α : Type} {P : α → List Char → Prop} {a : α} {as : List α} {t : List Char}

/-- Behind a comma, first items are items further on. -/
theorem SpellsItems.later (h : SpellsItems P true (a :: as) t) :
    SpellsItems P false (a :: as) (',' :: t) := by
  cases h with
  | cons hlead ha has =>
      cases hlead with
      | first hw => exact .cons (.next gap_nil hw) ha has

theorem intercalate_comma (s t : List Char) (rest : List (List Char)) :
    [','].intercalate (s :: t :: rest) = s ++ ',' :: [','].intercalate (t :: rest) := by
  rw [List.intercalate_cons_cons, List.append_assoc]
  rfl

theorem spellsItems_intercalate {render : α → List Char} (h : ∀ a ∈ as, P a (render a)) :
    SpellsItems P true as ([','].intercalate (as.map render)) := by
  induction as with
  | nil => exact .nil gap_nil
  | cons a as ih =>
      obtain ⟨ha, has⟩ := List.forall_mem_cons.mp h
      cases as with
      | nil =>
          have hlast := SpellsItems.cons (.first gap_nil) ha (.nil gap_nil)
          simpa using hlast
      | cons b as =>
          rw [List.map_cons, List.map_cons, intercalate_comma]
          -- the others are spelled as first items; the comma in front makes them later ones
          exact .cons (.first gap_nil) ha (ih has).later

end Items

theorem renderItems_eq (items : List Value) :
    renderItems items = [','].intercalate (items.map Value.render) := by
  induction items with
  | nil => rfl
  | cons item items ih =>
      cases items with
      | nil => rw [List.map_singleton, List.intercalate_singleton, renderItems]
      | cons next rest =>
          rw [renderItems, ih]
          exact (intercalate_comma _ _ _).symm

def renderMember (member : String × Value) : List Char :=
  renderText member.1 ++ ':' :: member.2.render

theorem renderMembers_eq (members : List (String × Value)) :
    renderMembers members = [','].intercalate (members.map renderMember) := by
  induction members with
  | nil => rfl
  | cons member members ih =>
      cases members with
      | nil => rw [List.map_singleton, List.intercalate_singleton, renderMembers, renderMember]
      | cons next rest =>
          rw [renderMembers, ih, ← List.cons_append, ← List.append_assoc]
          exact (intercalate_comma _ _ _).symm

theorem spellsMember_render {P : Value → List Char → Prop} {member : String × Value}
    (h : P member.2 member.2.render) : SpellsMember P member (renderMember member) :=
  .named (spellsText_render member.1) gap_nil gap_nil h

/-! ## Values -/

/-- A value that holds no floating point number, has the members of its objects in the order of
their names, and nests arrays and objects at most so deep. -/
inductive Value.Within : Nat → Value → Prop
  | null {depth} : Within depth .null
  | boolean {depth value} : Within depth (.boolean value)
  | integer {depth i h} : Within depth (.number (.integer i h))
  | text {depth s} : Within depth (.text s)
  | array {depth items} : (∀ item ∈ items, Within depth item) → Within (depth + 1) (.array items)
  | object {depth members} : members.Pairwise (fun a b => a.1 < b.1) →
      (∀ member ∈ members, Within depth member.2) → Within (depth + 1) (.object members)

theorem spells_render {depth : Nat} {value : Value} (h : value.Within depth) :
    Spells depth value value.render := by
  induction h with
  | @null depth => exact .scalar .null depth
  | @boolean depth value =>
      cases value with
      | true => exact .scalar .true depth
      | false => exact .scalar .false depth
  | @integer depth i h => exact .scalar .integer depth
  | @text depth s => exact .scalar (.text (spellsText_render s)) depth
  | @array depth items _ ih =>
      rw [Value.render, renderItems_eq]
      exact .inr (.array (spellsItems_intercalate ih))
  | @object depth members hordered _ ih =>
      rw [Value.render, renderMembers_eq]
      have hmembers := spellsItems_intercalate fun member hmember =>
        spellsMember_render (ih member hmember)
      have hobject := SpellsNested.object hmembers
      rw [Dictionary.toList_ofList hordered] at hobject
      exact .inr hobject

theorem within_scalar {value : Value} {t : List Char} (h : SpellsScalar value t) (depth : Nat) :
    value.Within depth := by
  cases h with
  | null => exact .null
  | true | false => exact .boolean
  | integer => exact .integer
  | text => exact .text

/-- Whatever can be written can also be printed. -/
theorem within_of_spells {depth : Nat} {value : Value} {t : List Char} (h : Spells depth value t) :
    value.Within depth := by
  induction depth generalizing value t with
  | zero => exact within_scalar h 0
  | succ depth ih =>
      rcases h with h | h
      · exact within_scalar h (depth + 1)
      · cases h with
        | array hitems =>
            refine .array fun item hitem => ?_
            obtain ⟨t, ht⟩ := hitems.exists_of_mem hitem
            exact ih ht
        | @object members _ hmembers =>
            refine .object (Dictionary.ofList members).ordered fun member hmember => ?_
            obtain ⟨t, ht⟩ := hmembers.exists_of_mem (Dictionary.mem_of_mem_ofList hmember)
            cases ht with
            | named _ _ _ hvalue => exact ih hvalue

end Fieldbus.Json
