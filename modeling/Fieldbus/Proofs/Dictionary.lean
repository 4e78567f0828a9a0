import Fieldbus.Dictionary
import Mathlib.Data.List.Induction

/-!
# Entries in the order of their names
-/
namespace Fieldbus.Dictionary

variable {α : Type} {name : String} {value old : α} {entries : List (String × α)}

/-- An entry takes the place of the one that has its name. -/
theorem insertEntry_of_lookup (hordered : entries.Pairwise fun a b => a.1 < b.1)
    (h : entries.lookup name = some old) :
    ∃ before later, entries = before ++ (name, old) :: later ∧
      ∀ value, insertEntry name value entries = before ++ (name, value) :: later := by
  induction entries with
  | nil => cases h
  | cons head rest ih =>
      obtain ⟨first, other⟩ := head
      have ⟨hhead, hrest⟩ := List.pairwise_cons.mp hordered
      rw [lookup_cons] at h
      by_cases heq : name = first
      · subst heq
        rw [if_pos rfl, Option.some.injEq] at h
        refine ⟨[], rest, by rw [h]; rfl, fun value => ?_⟩
        rw [insertEntry, if_neg (String.lt_irrefl _), if_pos rfl]
        rfl
      · rw [if_neg heq] at h
        obtain ⟨before, later, hsplit, hinsert⟩ := ih hrest h
        -- a name in front of the first one stands nowhere behind it
        have hgt : first < name := hhead (name, old) (by simp [hsplit])
        have hnlt : ¬ name < first :=
          fun hlt => absurd (String.lt_trans hlt hgt) (String.lt_irrefl _)
        refine ⟨(first, other) :: before, later, by rw [hsplit]; rfl, fun value => ?_⟩
        rw [insertEntry, if_neg hnlt, if_neg heq, hinsert]
        rfl

theorem eq_of_toList {d e : Dictionary α} (h : d.toList = e.toList) : d = e := by
  cases d
  cases e
  cases h
  rfl

/-- A name that is there already leaves the dictionary as large as it is. -/
theorem size_insert_of_find? {d : Dictionary α} (h : d.find? name = some old) (value : α) :
    (d.insert name value).size = d.size := by
  obtain ⟨before, later, hsplit, hinsert⟩ := insertEntry_of_lookup d.ordered h
  have hold : d.size = (before ++ (name, old) :: later).length := congrArg List.length hsplit
  have hnew : (d.insert name value).size = (before ++ (name, value) :: later).length :=
    congrArg List.length (hinsert value)
  rw [hnew, hold, List.length_append, List.length_append]
  rfl

/-- What is there already need not be put in. -/
theorem insert_of_find? {d : Dictionary α} (h : d.find? name = some value) :
    d.insert name value = d := by
  obtain ⟨before, later, hsplit, hinsert⟩ := insertEntry_of_lookup d.ordered h
  exact eq_of_toList ((hinsert value).trans hsplit.symm)

/-! ## Entries -/

theorem nodup_keys (d : Dictionary α) : d.keys.Nodup := by
  refine List.pairwise_map.mpr (d.ordered.imp fun hlt heq => ?_)
  exact String.lt_irrefl _ (heq ▸ hlt)

theorem mem_toList_of_find? {d : Dictionary α} (h : d.find? name = some value) :
    (name, value) ∈ d.toList := by
  obtain ⟨before, later, hsplit, -⟩ := List.lookup_eq_some_iff.mp h
  rw [hsplit]
  exact List.mem_append_right before List.mem_cons_self

theorem mem_keys_iff {d : Dictionary α} : name ∈ d.keys ↔ d.find? name ≠ none := by
  rw [keys, find?, Ne, List.lookup_eq_none_iff]
  simp

theorem mem_toList_insert {d : Dictionary α} {entry : String × α}
    (h : entry ∈ (d.insert name value).toList) : entry = (name, value) ∨ entry ∈ d.toList :=
  mem_insertEntry h

theorem mem_toList_erase {d : Dictionary α} {entry : String × α}
    (h : entry ∈ (d.erase name).toList) : entry ∈ d.toList :=
  (List.mem_filter.mp h).1

/-! ## Dictionaries from lists -/

/-- Puts entries in one after the other. Of two with one name the later stays. -/
def ofList (entries : List (String × α)) : Dictionary α :=
  entries.foldl (fun d entry => d.insert entry.1 entry.2) .empty

/-- Only what is put in is there. -/
theorem mem_of_mem_ofList {entry : String × α} (h : entry ∈ (ofList entries).toList) :
    entry ∈ entries := by
  induction entries using List.reverseRecOn with
  | nil => cases h
  | append_singleton entries last ih =>
      rw [ofList, List.foldl_append] at h
      rcases mem_toList_insert h with rfl | h
      · exact List.mem_append_right entries List.mem_cons_self
      · exact List.mem_append_left [last] (ih h)

theorem insertEntry_of_forall_lt (h : ∀ entry ∈ entries, entry.1 < name) (value : α) :
    insertEntry name value entries = entries ++ [(name, value)] := by
  induction entries with
  | nil => rfl
  | cons head rest ih =>
      obtain ⟨hhead, hrest⟩ := List.forall_mem_cons.mp h
      have hnlt : ¬ name < head.1 := fun hlt => String.lt_irrefl _ (String.lt_trans hlt hhead)
      have hne : ¬ name = head.1 := fun heq => String.lt_irrefl _ (heq ▸ hhead)
      rw [insertEntry, if_neg hnlt, if_neg hne, ih hrest]
      rfl

theorem toList_ofList (h : entries.Pairwise fun a b => a.1 < b.1) :
    (ofList entries).toList = entries := by
  induction entries using List.reverseRecOn with
  | nil => rfl
  | append_singleton entries entry ih =>
      obtain ⟨hentries, -, hlast⟩ := List.pairwise_append.mp h
      rw [ofList, List.foldl_append]
      refine (insertEntry_of_forall_lt (fun other hother => ?_) entry.2).trans ?_
      · have hmem : other ∈ (ofList entries).toList := hother
        rw [ih hentries] at hmem
        exact hlast other hmem entry List.mem_cons_self
      · exact congrArg (· ++ [entry]) (ih hentries)

theorem ofList_toList (d : Dictionary α) : ofList d.toList = d :=
  eq_of_toList (toList_ofList d.ordered)

end Fieldbus.Dictionary
