import Mathlib.Data.List.Basic

/-!
# Places known by number

Whoever comes gets the next number, and a place that is left stays empty, so that no number is used
again.
-/
namespace Fieldbus

variable {β γ : Type} {places : List (Option β)} {b : β} {number : Nat}

theorem lt_length_of_place (h : places[number]?.join = some b) : number < places.length := by
  obtain ⟨hlt, -⟩ := List.getElem?_eq_some_iff.mp (Option.join_eq_some_iff.mp h)
  exact hlt

theorem place_eq_none (h : places.length ≤ number) : places[number]?.join = none := by
  rw [List.getElem?_eq_none h, Option.join_none]

theorem place_concat (places : List (Option β)) (place : Option β) (number : Nat) :
    (places ++ [place])[number]?.join
      = if number = places.length then place else places[number]?.join := by
  rcases Nat.lt_trichotomy number places.length with hlt | rfl | hgt
  · rw [List.getElem?_append_left hlt, if_neg (Nat.ne_of_lt hlt)]
  · rw [List.getElem?_concat_length, if_pos rfl, Option.join_some]
  · rw [if_neg (Nat.ne_of_gt hgt), place_eq_none (Nat.le_of_lt hgt), place_eq_none]
    rw [List.length_append]
    exact hgt

theorem place_set (h : places[number]?.join = some b) (place : Option β) (other : Nat) :
    (places.set number place)[other]?.join
      = if other = number then place else places[other]?.join := by
  have hlt := lt_length_of_place h
  rw [List.getElem?_set]
  by_cases heq : number = other
  · subst heq
    simp [hlt]
  · simp [heq, Ne.symm heq]

theorem place_map (places : List (Option β)) (f : β → γ) (number : Nat) :
    (places.map (Option.map f))[number]?.join = places[number]?.join.map f := by
  rw [List.getElem?_map, Option.join_map_eq_map_join]

theorem place_eq_none_of_countP (h : places.countP (·.isSome) = 0) (number : Nat) :
    places[number]?.join = none := by
  rw [List.countP_eq_zero] at h
  refine Option.eq_none_iff_forall_ne_some.mpr fun b hb => ?_
  exact h _ (List.mem_of_getElem? (Option.join_eq_some_iff.mp hb)) rfl

/-- As many places are taken here as there, if the same are. -/
theorem countP_isSome_congr {others : List (Option γ)} (hlength : places.length = others.length)
    (h : ∀ number : Nat, places[number]?.join.isSome = others[number]?.join.isSome) :
    places.countP (·.isSome) = others.countP (·.isSome) := by
  have hmap : places.map (·.isSome) = others.map (·.isSome) := by
    refine List.ext_getElem (by simpa using hlength) fun number hhere hthere => ?_
    rw [List.length_map] at hhere hthere
    have hnumber := h number
    rw [List.getElem?_eq_getElem hhere, List.getElem?_eq_getElem hthere] at hnumber
    simpa using hnumber
  have hcount := congrArg (List.countP id) hmap
  rwa [List.countP_map, List.countP_map] at hcount

end Fieldbus
