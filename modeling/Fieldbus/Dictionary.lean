/-!
# Dictionaries with names for keys

Entries stand in ascending order of their names, no name twice. So two dictionaries with the same
entries are equal, and a dictionary is written in one way only.
-/
namespace Fieldbus

/-- Values under names. -/
structure Dictionary (α : Type) where
  toList : List (String × α)
  ordered : toList.Pairwise fun a b => a.1 < b.1

namespace Dictionary

variable {α : Type}

/-! ## Entries in order -/

/-- Puts an entry in its place. An entry of that name is replaced. -/
def insertEntry (name : String) (value : α) : List (String × α) → List (String × α)
  | [] => [(name, value)]
  | (other, old) :: rest =>
    if name < other then (name, value) :: (other, old) :: rest
    else if name = other then (name, value) :: rest
    else (other, old) :: insertEntry name value rest

theorem mem_insertEntry {name : String} {value : α} {entries : List (String × α)}
    {entry : String × α} (h : entry ∈ insertEntry name value entries) :
    entry = (name, value) ∨ entry ∈ entries := by
  induction entries with
  | nil => simpa [insertEntry] using h
  | cons head rest ih =>
    obtain ⟨other, old⟩ := head
    simp only [insertEntry] at h
    split at h
    · simpa using h
    · split at h
      · rcases List.mem_cons.1 h with h | h <;> simp [h]
      · rcases List.mem_cons.1 h with h | h
        · simp [h]
        · rcases ih h with h | h <;> simp [h]

theorem ordered_insertEntry {entries : List (String × α)}
    (h : entries.Pairwise fun a b => a.1 < b.1) (name : String) (value : α) :
    (insertEntry name value entries).Pairwise fun a b => a.1 < b.1 := by
  induction entries with
  | nil => simp [insertEntry]
  | cons head rest ih =>
    obtain ⟨other, old⟩ := head
    have ⟨hhead, hrest⟩ := List.pairwise_cons.1 h
    simp only [insertEntry]
    split
    · rename_i hlt
      refine List.pairwise_cons.2 ⟨fun entry hentry => ?_, h⟩
      rcases List.mem_cons.1 hentry with rfl | hentry
      · exact hlt
      · exact String.lt_trans hlt (hhead entry hentry)
    · split
      · rename_i heq
        subst heq
        exact List.pairwise_cons.2 ⟨hhead, hrest⟩
      · rename_i hnlt hne
        refine List.pairwise_cons.2 ⟨fun entry hentry => ?_, ih hrest⟩
        rcases mem_insertEntry hentry with rfl | hentry
        · apply Classical.byContradiction
          intro hc
          exact hne (String.le_antisymm (String.not_lt.1 hc) (String.not_lt.1 hnlt))
        · exact hhead entry hentry

/-! ## Operations -/

def empty : Dictionary α :=
  ⟨[], .nil⟩

/-- The value under a name. -/
def find? (d : Dictionary α) (name : String) : Option α :=
  d.toList.lookup name

/-- Puts a value under a name, in place of the one that is there. -/
def insert (d : Dictionary α) (name : String) (value : α) : Dictionary α :=
  ⟨insertEntry name value d.toList, ordered_insertEntry d.ordered name value⟩

/-- Drops the entry under a name, if there is one. -/
def erase (d : Dictionary α) (name : String) : Dictionary α :=
  ⟨d.toList.filter fun entry => entry.1 ≠ name, d.ordered.filter _⟩

def size (d : Dictionary α) : Nat :=
  d.toList.length

def keys (d : Dictionary α) : List String :=
  d.toList.map (·.1)

def values (d : Dictionary α) : List α :=
  d.toList.map (·.2)

/-! ## What each operation does to look-ups -/

@[simp] theorem find?_empty (name : String) : (empty : Dictionary α).find? name = none := rfl

theorem lookup_cons (name first : String) (value : α) (rest : List (String × α)) :
    ((first, value) :: rest).lookup name
      = if name = first then some value else rest.lookup name := by
  by_cases h : name = first
  · simp [h]
  · simp [List.lookup_cons, beq_false_of_ne h, h]

theorem lookup_insertEntry (name other : String) (value : α) (entries : List (String × α)) :
    (insertEntry name value entries).lookup other
      = if other = name then some value else entries.lookup other := by
  induction entries with
  | nil => simp [insertEntry, lookup_cons]
  | cons head rest ih =>
    obtain ⟨first, old⟩ := head
    simp only [insertEntry]
    split
    · rw [lookup_cons]
    · split
      · rename_i heq
        subst heq
        simp only [lookup_cons]
        split <;> rfl
      · rename_i hne
        rw [lookup_cons, lookup_cons, ih]
        by_cases h : other = first
        · simp [h, Ne.symm hne]
        · simp [h]

theorem find?_insert (d : Dictionary α) (name other : String) (value : α) :
    (d.insert name value).find? other = if other = name then some value else d.find? other :=
  lookup_insertEntry name other value d.toList

@[simp] theorem find?_insert_self (d : Dictionary α) (name : String) (value : α) :
    (d.insert name value).find? name = some value := by
  simp [find?_insert]

theorem find?_insert_of_ne (d : Dictionary α) {name other : String} (value : α)
    (h : other ≠ name) : (d.insert name value).find? other = d.find? other := by
  simp [find?_insert, h]

theorem lookup_filter_ne (name other : String) (entries : List (String × α)) :
    (entries.filter fun entry => entry.1 ≠ name).lookup other
      = if other = name then none else entries.lookup other := by
  induction entries with
  | nil => simp
  | cons head rest ih =>
    obtain ⟨first, old⟩ := head
    rw [lookup_cons]
    by_cases hf : first = name
    · rw [List.filter_cons_of_neg (by simp [hf]), ih]
      split
      · rfl
      · rename_i hn
        rw [if_neg fun h => hn (h.trans hf)]
    · rw [List.filter_cons_of_pos (by simp [hf]), lookup_cons, ih]
      by_cases ho : other = first
      · simp [ho, hf]
      · simp [ho]

theorem find?_erase (d : Dictionary α) (name other : String) :
    (d.erase name).find? other = if other = name then none else d.find? other :=
  lookup_filter_ne name other d.toList

theorem length_insertEntry {name : String} {entries : List (String × α)}
    (h : entries.lookup name = none) (value : α) :
    (insertEntry name value entries).length = entries.length + 1 := by
  induction entries with
  | nil => rfl
  | cons head rest ih =>
    obtain ⟨first, old⟩ := head
    have hne : name ≠ first := by
      rintro rfl
      simp at h
    simp only [insertEntry]
    split
    · rfl
    · rw [lookup_cons, if_neg hne] at h
      simp [ih h]

/-- A new name makes the dictionary larger by one. -/
theorem size_insert {d : Dictionary α} {name : String} (h : d.find? name = none) (value : α) :
    (d.insert name value).size = d.size + 1 :=
  length_insertEntry h value

end Dictionary
end Fieldbus
