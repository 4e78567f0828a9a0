import Fieldbus.Json.Variant
import Fieldbus.Proofs.Json.Reader

/-!
# Reading one of several variants

A variant without payload is read from its name, and one with a payload from an object whose only
member bears the name.
-/
namespace Fieldbus.Json.Variants

variable {α : Type} {variants : Variants α} {name : String} {t w w' : List Char}

theorem named_of_lookup {payload : Payload α} (h : variants.lookup name = some payload)
    (c : Cursor) : variants.named name c = .ok payload := by
  simp only [named, h]

theorem close_append (hw : Gap w) (rest : List Char) (offset : Nat) :
    close ⟨offset, w ++ '\x7d' :: rest⟩ = .ok ⟨offset + w.length + 1, rest⟩ := by
  rw [close, skipLayout_token hw rfl]
  rfl

theorem reads_name {value : α} (h : variants.lookup name = some (.nothing value))
    (ht : SpellsText name t) (depth : Nat) : Reads (variants.reader depth) value t where
  opens := ht.opens
  reads {w rest} hw _ offset := by
    have hlayout := ht.opens.head? rest
    obtain ⟨t', rfl⟩ := ht.quote
    obtain ⟨offset', hname⟩ := textReader_append ht rest (offset + w.length + 1)
    refine ⟨offset', ?_⟩
    rw [reader, skipLayout_append hw hlayout]
    simp only [List.cons_append, Cursor.skip, List.drop_succ_cons, List.drop_zero, hname, bind,
      Except.bind, named_of_lookup h]
    rfl

theorem member_append {read : Reader α} {depth : Nat} {a : α} {rest : List Char}
    (h : variants.lookup name = some (.carried read)) (hw : Gap w)
    (ht : SpellsMember (Reads (read depth)) (name, a) t) (hrest : Ends rest) (offset : Nat) :
    ∃ offset', variants.member depth ⟨offset, w ++ (t ++ rest)⟩ = .ok (a, ⟨offset', rest⟩) := by
  cases ht with
  | @named name a n v v' t hname hv hv' ha =>
      have hlayout := hname.opens.head? (v ++ ':' :: (v' ++ (t ++ rest)))
      obtain ⟨n', rfl⟩ := hname.quote
      obtain ⟨behind, hread⟩ := textReader_append hname (v ++ ':' :: (v' ++ (t ++ rest)))
        (offset + w.length + 1)
      obtain ⟨value, offset', hcolon, hvalue⟩ := reads_behind_name ha hv hv' hrest behind
      refine ⟨offset', ?_⟩
      simp only [List.append_assoc, List.cons_append] at hlayout ⊢
      rw [member, skipLayout_append hw hlayout]
      simp only [Cursor.skip, List.drop_succ_cons, List.drop_zero, hread, bind, Except.bind,
        named_of_lookup h, hcolon, hvalue]

theorem reads_object {read : Reader α} {depth : Nat} {a : α}
    (h : variants.lookup name = some (.carried read)) (hw : Gap w)
    (ht : SpellsMember (Reads (read depth)) (name, a) t) (hw' : Gap w') :
    Reads (variants.reader (depth + 1)) a ('\x7b' :: (w ++ (t ++ (w' ++ ['\x7d'])))) where
  opens := opens_brace _
  reads {lead rest} hlead _ offset := by
    have hends : Ends (w' ++ '\x7d' :: rest) := ends_gap hw' (by simp [Ends])
    obtain ⟨offset', hmember⟩ := member_append h hw ht hends (offset + lead.length + 1)
    refine ⟨offset' + w'.length + 1, ?_⟩
    have hlayout := (opens_brace (w ++ (t ++ (w' ++ ['\x7d'])))).head? rest
    rw [reader, skipLayout_append hlead hlayout]
    simp only [List.cons_append, List.append_assoc, List.nil_append, entered, Cursor.skip,
      List.drop_succ_cons, List.drop_zero, hmember, bind, Except.bind, close_append hw']
    rfl

end Fieldbus.Json.Variants
