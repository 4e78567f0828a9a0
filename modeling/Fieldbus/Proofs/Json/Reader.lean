import Fieldbus.Json.Parse
import Fieldbus.Proofs.Codec.Tracked
import Fieldbus.Proofs.Json.Scalar

/-!
# Reading what is written

A reader reads a text for a value if it takes exactly that text, with any white space in front, and
returns the value. What a reader of arrays or objects reads follows from what the reader of their
items does; no reader needs more steps than there are characters.
-/
namespace Fieldbus.Json

variable {α β : Type} {offset : Nat} {w t rest : List Char}

structure Reads (read : Cursor → Reading (α × Cursor)) (a : α) (t : List Char) : Prop where
  opens : Opens t
  reads {w rest : List Char} : Gap w → Ends rest → ∀ offset,
    ∃ offset', read ⟨offset, w ++ (t ++ rest)⟩ = .ok (a, ⟨offset', rest⟩)

theorem Reads.map {read : Cursor → Reading (α × Cursor)} {a : α} (h : Reads read a t)
    (f : α → β) :
    Reads (fun c => do
      let (a, c) ← read c
      return (f a, c)) (f a) t where
  opens := h.opens
  reads hw hrest offset := by
    obtain ⟨offset', hread⟩ := h.reads hw hrest offset
    refine ⟨offset', ?_⟩
    rw [hread]
    rfl

/-! ## Scalars -/

theorem reads_of_headReader {read : Cursor → Reading (α × Cursor)} {value : Value} {a : α}
    (h : SpellsScalar value t)
    (hread : ∀ c c', headReader c = .ok (value.head, c') → read c = .ok (a, c')) :
    Reads read a t where
  opens := h.opens
  reads hw hrest offset := by
    obtain ⟨offset', hhead⟩ := headReader_scalar h hw hrest offset
    exact ⟨offset', hread _ _ hhead⟩

theorem reads_unsigned {n bound : Nat} {inRange} (h : SpellsScalar (.number (.integer n inRange)) t)
    (hlt : n < bound) (expected : String) (depth : Nat) :
    Reads (unsignedReader expected bound depth) n t := by
  refine reads_of_headReader h fun c c' hhead => ?_
  simp only [unsignedReader, hhead, Value.head, bind, Except.bind]
  rw [if_pos ⟨Int.natCast_nonneg n, Int.ofNat_lt.mpr hlt⟩]
  rfl

theorem reads_byte {byte : UInt8} (h : SpellsScalar (.number (.ofByte byte)) t) (depth : Nat) :
    Reads (byteReader depth) byte t := by
  have hreads := (reads_unsigned h byte.toNat_lt "u8" depth).map UInt8.ofNat
  rwa [UInt8.ofNat_toNat] at hreads

theorem reads_code {code : UInt16} (h : SpellsScalar (.number (.ofCode code)) t) (depth : Nat) :
    Reads (codeReader depth) code t := by
  have hreads := (reads_unsigned h code.toNat_lt "u16" depth).map UInt16.ofNat
  rwa [UInt16.ofNat_toNat] at hreads

theorem reads_string {s : String} (h : SpellsText s t) (depth : Nat) :
    Reads (stringReader depth) s t := by
  refine reads_of_headReader (.text h) fun c c' hhead => ?_
  rw [stringReader, hhead]
  rfl

theorem reads_some_string {s : String} (h : SpellsText s t) (depth : Nat) :
    Reads (optionalStringReader depth) (some s) t := by
  refine reads_of_headReader (.text h) fun c c' hhead => ?_
  rw [optionalStringReader, hhead]
  rfl

theorem reads_no_string (h : SpellsScalar .null t) (depth : Nat) :
    Reads (optionalStringReader depth) none t := by
  refine reads_of_headReader h fun c c' hhead => ?_
  rw [optionalStringReader, hhead]
  rfl

/-! ## Arrays -/

theorem ends_gap (hw : Gap w) (hrest : Ends rest) : Ends (w ++ rest) := by
  cases w with
  | nil => exact hrest
  | cons x w =>
      intro y hy
      cases hy
      exact .inl (hw x List.mem_cons_self)

theorem SpellsItems.ends {P : α → List Char → Prop} {as : List α}
    (h : SpellsItems P false as t) (hrest : Ends rest) : Ends (t ++ rest) := by
  cases h with
  | nil hw => exact ends_gap hw hrest
  | cons hlead _ _ =>
      cases hlead with
      | next hw hw' =>
          rw [List.append_assoc, List.append_assoc]
          exact ends_gap hw (by simp [Ends])

theorem skipLayout_skip (hw : Gap w) (hrest : ∀ x ∈ rest.head?, Cursor.isLayout x = false)
    (x : Char) (offset : Nat) :
    Cursor.skipLayout (Cursor.skip ⟨offset, x :: (w ++ rest)⟩ 1)
      = ⟨offset + 1 + w.length, rest⟩ :=
  skipLayout_append hw hrest (offset + 1)

theorem nextItem_lead {first : Bool} {lead : List Char} (hlead : Lead first lead) (ht : Opens t)
    (rest : List Char) (offset : Nat) :
    ∃ offset', nextItem first ⟨offset, lead ++ (t ++ rest)⟩
      = .ok (some ⟨offset', t ++ rest⟩) := by
  have hlayout := ht.head? rest
  obtain ⟨x, t', rfl, -, hx⟩ := ht
  cases hlead with
  | first hw =>
      refine ⟨offset + lead.length, ?_⟩
      rw [nextItem, skipLayout_append hw hlayout]
      simp only [List.cons_append, hx, if_false, if_true]
  | @next w w' hw hw' =>
      refine ⟨offset + w.length + 1 + w'.length, ?_⟩
      have hskip := skipLayout_skip hw' hlayout ',' (offset + w.length)
      rw [List.append_assoc, nextItem, List.cons_append, skipLayout_token hw rfl]
      rw [List.cons_append] at hskip ⊢
      simp [hskip, hx]

theorem nextItem_bracket (hw : Gap w) (first : Bool) (rest : List Char) (offset : Nat) :
    nextItem first ⟨offset, w ++ ']' :: rest⟩ = .ok none := by
  rw [nextItem, skipLayout_token hw rfl]
  rfl

theorem items_append {read : Cursor → Reading (α × Cursor)} {first : Bool} {as : List α}
    (h : SpellsItems (Reads read) first as t) (rest : List Char) :
    ∀ steps offset, t.length < steps → ∃ offset' w, Gap w ∧
      items read steps first ⟨offset, t ++ ']' :: rest⟩ = .ok (as, ⟨offset', w ++ ']' :: rest⟩) := by
  induction h with
  | @nil first w hw =>
      intro steps offset hsteps
      obtain ⟨steps, rfl⟩ := Nat.exists_eq_add_one_of_ne_zero (Nat.ne_zero_of_lt hsteps)
      refine ⟨offset, w, hw, ?_⟩
      rw [items, nextItem_bracket hw]
      rfl
  | @cons first lead a t as ts hlead ha has ih =>
      intro steps offset hsteps
      obtain ⟨steps, rfl⟩ := Nat.exists_eq_add_one_of_ne_zero (Nat.ne_zero_of_lt hsteps)
      -- behind the item stands a gap, a comma or the bracket, so its reader stops there
      have hends : Ends (ts ++ ']' :: rest) := has.ends (by simp [Ends])
      obtain ⟨behind, hnext⟩ := nextItem_lead hlead ha.opens (ts ++ ']' :: rest) offset
      obtain ⟨between, hread⟩ := ha.reads gap_nil hends behind
      have hfewer : ts.length < steps := by
        obtain ⟨x, t', rfl, -⟩ := ha.opens
        simp only [List.length_append, List.length_cons] at hsteps
        omega
      obtain ⟨offset', w, hw, hitems⟩ := ih steps between hfewer
      refine ⟨offset', w, hw, ?_⟩
      rw [List.append_assoc, List.append_assoc, items, hnext]
      rw [List.nil_append] at hread
      simp only [bind, Except.bind, pure, Except.pure, hread, hitems]

theorem closeList_append (hw : Gap w) (offset : Nat) :
    closeList ⟨offset, w ++ ']' :: rest⟩ = .ok ⟨offset + w.length + 1, rest⟩ := by
  rw [closeList, skipLayout_token hw rfl]
  rfl

/-- An array is left behind its closing bracket once its reader has come to that bracket. -/
theorem inList_of_body {depth : Nat} {body : Reader α} {offset' : Nat} {a : α} (hw : Gap w)
    (h : body depth ⟨offset + 1, t⟩ = .ok (a, ⟨offset', w ++ ']' :: rest⟩)) :
    inList (depth + 1) body ⟨offset, '[' :: t⟩ = .ok (a, ⟨offset' + w.length + 1, rest⟩) := by
  have hentered : entered (depth + 1) body ⟨offset, '[' :: t⟩
      = .ok (a, ⟨offset', w ++ ']' :: rest⟩) := h
  simp only [inList, hentered, Except.mapError, closeList_append hw, bind, Except.bind, pure,
    Except.pure]

theorem inList_items (read : Reader α) (depth : Nat) {as : List α}
    (h : SpellsItems (Reads (read depth)) true as t) (rest : List Char) (offset : Nat) :
    ∃ offset', inList (depth + 1)
        (fun depth c => items (read depth) (c.ahead.length + 1) true c)
        ⟨offset, '[' :: (t ++ ']' :: rest)⟩ = .ok (as, ⟨offset', rest⟩) := by
  obtain ⟨offset', w, hw, hitems⟩ := items_append h rest ((t ++ ']' :: rest).length + 1)
    (offset + 1) (by rw [List.length_append]; omega)
  exact ⟨_, inList_of_body hw hitems⟩

theorem opens_bracket (t : List Char) : Opens ('[' :: t) :=
  ⟨'[', t, rfl, by decide, by decide⟩

theorem reads_list {depth : Nat} {item : Reader α} {as : List α}
    (h : SpellsItems (Reads (item depth)) true as t) :
    Reads (listReader item (depth + 1)) as ('[' :: (t ++ [']'])) where
  opens := opens_bracket _
  reads {w rest} hw _ offset := by
    obtain ⟨offset', hlist⟩ := inList_items item depth h rest (offset + w.length)
    refine ⟨offset', ?_⟩
    rw [List.cons_append, List.append_assoc, listReader, headReader_bracket hw]
    exact hlist

/-! ## Objects -/

theorem SpellsText.opens {s : String} (h : SpellsText s t) : Opens t := by
  cases h
  exact ⟨'"', _, rfl, by decide, by decide⟩

theorem nextName_lead {first : Bool} {lead : List Char} {name : String}
    (hlead : Lead first lead) (hname : SpellsText name t) (rest : List Char) (offset : Nat) :
    ∃ offset', nextName first ⟨offset, lead ++ (t ++ rest)⟩
      = .ok (some (name, ⟨offset', rest⟩)) := by
  have hlayout := hname.opens.head? rest
  obtain ⟨t', rfl⟩ := hname.quote
  cases hlead with
  | first hw =>
      obtain ⟨offset', hreader⟩ := textReader_append hname rest (offset + lead.length + 1)
      refine ⟨offset', ?_⟩
      rw [nextName, skipLayout_append hw hlayout]
      simp only [List.cons_append, Cursor.skip, List.drop_succ_cons, List.drop_zero, hreader]
      rfl
  | @next w w' hw hw' =>
      obtain ⟨offset', hreader⟩ :=
        textReader_append hname rest (offset + w.length + 1 + w'.length + 1)
      have hskip := skipLayout_skip hw' hlayout ',' (offset + w.length)
      refine ⟨offset', ?_⟩
      rw [List.append_assoc, nextName, List.cons_append, skipLayout_token hw rfl]
      simp only [List.cons_append] at hskip ⊢
      simp only [hskip]
      simp only [Cursor.skip, List.drop_succ_cons, List.drop_zero, hreader]
      rfl

theorem nextName_brace (hw : Gap w) (first : Bool) (rest : List Char) (offset : Nat) :
    nextName first ⟨offset, w ++ '\x7d' :: rest⟩ = .ok none := by
  rw [nextName, skipLayout_token hw rfl]
  rfl

theorem colon_append (hw : Gap w) (offset : Nat) :
    colon ⟨offset, w ++ ':' :: rest⟩ = .ok ⟨offset + w.length + 1, rest⟩ := by
  rw [colon, skipLayout_token hw rfl]
  rfl

/-- A member behind its name, up to its value. -/
theorem reads_behind_name {read : Cursor → Reading (α × Cursor)} {a : α} {w' : List Char}
    (h : Reads read a t) (hw : Gap w) (hw' : Gap w') (hrest : Ends rest) (offset : Nat) :
    ∃ behind offset', colon ⟨offset, w ++ ':' :: (w' ++ (t ++ rest))⟩ = .ok behind
      ∧ read behind = .ok (a, ⟨offset', rest⟩) := by
  obtain ⟨offset', hread⟩ := h.reads hw' hrest (offset + w.length + 1)
  exact ⟨_, offset', colon_append hw offset, hread⟩

theorem members_append {read : Cursor → Reading (α × Cursor)} {first : Bool}
    {ms : List (String × α)} (h : SpellsItems (SpellsMember (Reads read)) first ms t)
    (rest : List Char) :
    ∀ steps offset known, t.length < steps → ∃ offset' w, Gap w ∧
      members read steps first known ⟨offset, t ++ '\x7d' :: rest⟩
        = .ok (ms.foldl (fun d m => d.insert m.1 m.2) known, ⟨offset', w ++ '\x7d' :: rest⟩) := by
  induction h with
  | @nil first w hw =>
      intro steps offset known hsteps
      obtain ⟨steps, rfl⟩ := Nat.exists_eq_add_one_of_ne_zero (Nat.ne_zero_of_lt hsteps)
      refine ⟨offset, w, hw, ?_⟩
      rw [members, nextName_brace hw]
      rfl
  | @cons first lead m t ms ts hlead hm hms ih =>
      intro steps offset known hsteps
      obtain ⟨steps, rfl⟩ := Nat.exists_eq_add_one_of_ne_zero (Nat.ne_zero_of_lt hsteps)
      have hends : Ends (ts ++ '\x7d' :: rest) := hms.ends (by simp [Ends])
      cases hm with
      | @named name a n w w' t hname hw hw' ha =>
          obtain ⟨behind, hnext⟩ := nextName_lead hlead hname
            (w ++ ':' :: (w' ++ (t ++ (ts ++ '\x7d' :: rest)))) offset
          obtain ⟨value, between, hcolon, hread⟩ := reads_behind_name ha hw hw' hends behind
          have hfewer : ts.length < steps := by
            simp only [List.length_append, List.length_cons] at hsteps
            omega
          obtain ⟨offset', w, hw, hmembers⟩ := ih steps between (known.insert name a) hfewer
          refine ⟨offset', w, hw, ?_⟩
          simp only [List.append_assoc, List.cons_append, members, hnext, hcolon, hread, hmembers,
            bind, Except.bind]
          rfl

theorem closeObject_append (hw : Gap w) (offset : Nat) :
    closeObject ⟨offset, w ++ '\x7d' :: rest⟩ = .ok ⟨offset + w.length + 1, rest⟩ := by
  rw [closeObject, skipLayout_token hw rfl]
  rfl

/-- An object is left behind its closing brace once its reader has come to that brace. -/
theorem inObject_of_body {depth : Nat} {body : Reader α} {offset' : Nat} {a : α} (hw : Gap w)
    (h : body depth ⟨offset + 1, t⟩ = .ok (a, ⟨offset', w ++ '\x7d' :: rest⟩)) :
    inObject (depth + 1) body ⟨offset, '\x7b' :: t⟩ = .ok (a, ⟨offset' + w.length + 1, rest⟩) := by
  have hentered : entered (depth + 1) body ⟨offset, '\x7b' :: t⟩
      = .ok (a, ⟨offset', w ++ '\x7d' :: rest⟩) := h
  simp only [inObject, hentered, Except.mapError, closeObject_append hw, bind, Except.bind, pure,
    Except.pure]

theorem inObject_members (read : Reader α) (depth : Nat) {ms : List (String × α)}
    (h : SpellsItems (SpellsMember (Reads (read depth))) true ms t)
    (rest : List Char) (offset : Nat) :
    ∃ offset', inObject (depth + 1)
        (fun depth c => members (read depth) (c.ahead.length + 1) true .empty c)
        ⟨offset, '\x7b' :: (t ++ '\x7d' :: rest)⟩ = .ok (.ofList ms, ⟨offset', rest⟩) := by
  obtain ⟨offset', w, hw, hmembers⟩ := members_append h rest ((t ++ '\x7d' :: rest).length + 1)
    (offset + 1) .empty (by rw [List.length_append]; omega)
  exact ⟨_, inObject_of_body hw hmembers⟩

theorem opens_brace (t : List Char) : Opens ('\x7b' :: t) :=
  ⟨'\x7b', t, rfl, by decide, by decide⟩

/-! ## Values of any kind -/

theorem reads_scalar {value : Value} (h : SpellsScalar value t)
    (inner : Cursor → Reading (Value × Cursor)) (depth : Nat) :
    Reads (valueWith inner depth) value t := by
  refine reads_of_headReader h fun c c' hhead => ?_
  rw [valueWith, hhead]
  cases h <;> rfl

theorem reads_nested {inner : Cursor → Reading (Value × Cursor)} {value : Value}
    (h : SpellsNested (Reads inner) value t) (depth : Nat) :
    Reads (valueWith inner (depth + 1)) value t := by
  cases h with
  | @array as t h =>
      refine ⟨opens_bracket _, fun {w rest} hw _ offset => ?_⟩
      obtain ⟨offset', hlist⟩ :=
        inList_items (fun _ => inner) depth h rest (offset + w.length)
      refine ⟨offset', ?_⟩
      rw [List.cons_append, List.append_assoc, valueWith, headReader_bracket hw]
      simp only [List.singleton_append, bind, Except.bind, hlist]
      rfl
  | @object ms t h =>
      refine ⟨opens_brace _, fun {w rest} hw _ offset => ?_⟩
      obtain ⟨offset', hobject⟩ :=
        inObject_members (fun _ => inner) depth h rest (offset + w.length)
      refine ⟨offset', ?_⟩
      rw [List.cons_append, List.append_assoc, valueWith, headReader_brace hw]
      simp only [List.singleton_append, bind, Except.bind, hobject]
      rfl

theorem reads_value {depth : Nat} {value : Value} (h : Spells depth value t) :
    Reads (valueReader depth) value t := by
  induction depth generalizing value t with
  | zero => exact reads_scalar h _ 0
  | succ depth ih =>
      rcases h with h | h
      · exact reads_scalar h _ (depth + 1)
      · -- only what stands between the brackets is left to the reader of less depth
        exact reads_nested (h.mono fun _ _ => ih) depth

/-- A dictionary is read from every written form of the object with its entries. -/
theorem reads_dictionary {depth : Nat} {d : Dictionary Value}
    (h : Spells depth (.object d.toList) t) : Reads (dictionaryReader depth) d t := by
  obtain ⟨depth, ms, t, rfl, rfl, hd, hms⟩ := Spells.object_inv h
  obtain rfl : d = .ofList ms := Dictionary.eq_of_toList hd
  refine ⟨opens_brace _, fun {w rest} hw _ offset => ?_⟩
  have hreads := hms.mono fun _ _ => SpellsMember.mono fun _ _ => reads_value
  obtain ⟨offset', hobject⟩ := inObject_members valueReader depth hreads rest (offset + w.length)
  refine ⟨offset', ?_⟩
  rw [List.cons_append, List.append_assoc, dictionaryReader, headReader_brace hw]
  exact hobject

/-! ## Whole texts -/

theorem parseWithin_of_reads {depth : Nat} {reader : Reader α} {a : α} {w' : List Char}
    (h : Reads (reader depth) a t) (hw : Gap w) (hw' : Gap w') :
    parseWithin depth reader (String.ofList (w ++ (t ++ w'))) = .ok a := by
  have hends : Ends w' := by
    rw [← List.append_nil w']
    exact ends_gap hw' (by simp [Ends])
  obtain ⟨offset', hread⟩ := h.reads hw hends 0
  have hskip : Cursor.skipLayout ⟨offset', w'⟩ = ⟨offset' + w'.length, []⟩ := by
    have hnone : ∀ x ∈ ([] : List Char).head?, Cursor.isLayout x = false := nofun
    have hall := skipLayout_append hw' hnone offset'
    rwa [List.append_nil] at hall
  simp only [parseWithin, String.toList_ofList, Cursor.ofText, hread, hskip, bind, Except.bind]
  rfl

/-! ## Where what is read comes from -/

variable {item reader : Reader α} {a : α} {as : List α} {c c' : Cursor}

theorem exists_read_of_mem_items {read : Cursor → Reading (α × Cursor)} {steps : Nat} {first : Bool}
    (h : items read steps first c = .ok (as, c')) (ha : a ∈ as) :
    ∃ before behind, read before = .ok (a, behind) := by
  induction steps generalizing first c c' as with
  | zero => cases h
  | succ steps ih =>
      obtain ⟨next, -, h⟩ := bind_eq_ok.mp h
      cases next with
      | none =>
          obtain ⟨rfl, -⟩ := Prod.mk.inj (Except.ok.inj h)
          cases ha
      | some c =>
          obtain ⟨⟨b, c⟩, hb, h⟩ := bind_eq_ok.mp h
          obtain ⟨⟨rest, c⟩, hrest, h⟩ := bind_eq_ok.mp h
          obtain ⟨rfl, -⟩ := Prod.mk.inj (Except.ok.inj h)
          rcases List.mem_cons.mp ha with rfl | ha
          · exact ⟨_, _, hb⟩
          · exact ih hrest ha

theorem exists_read_of_mem_list {depth : Nat} (h : listReader item depth c = .ok (as, c'))
    (ha : a ∈ as) : ∃ depth before behind, item depth before = .ok (a, behind) := by
  obtain ⟨⟨head, c⟩, -, h⟩ := bind_eq_ok.mp h
  cases head with
  | sequence =>
      obtain ⟨⟨list, c⟩, hlist, h⟩ := bind_eq_ok.mp h
      obtain ⟨_, -, h⟩ := bind_eq_ok.mp h
      obtain ⟨rfl, -⟩ := Prod.mk.inj (Except.ok.inj h)
      cases depth with
      | zero => cases hlist
      | succ depth =>
          obtain ⟨before, behind, hread⟩ := exists_read_of_mem_items (mapError_eq_ok.mp hlist) ha
          exact ⟨depth, before, behind, hread⟩
  | _ => cases h

theorem exists_read_of_parse {text : String} (h : parse reader text = .ok a) :
    ∃ before behind, reader nestingLimit before = .ok (a, behind) := by
  obtain ⟨⟨b, c⟩, hread, h⟩ := bind_eq_ok.mp (mapError_eq_ok.mp h)
  dsimp only at h
  split at h
  · exact ⟨_, _, Except.ok.inj h ▸ hread⟩
  · cases h

end Fieldbus.Json
