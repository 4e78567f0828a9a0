import Fieldbus.Json.Skip

/-!
# Reading records

A record is written as an object with a member for each field, in any order and among others, or
as an array of its fields in their order. While it is read, a draft of it is filled in.
-/
namespace Fieldbus.Json

/-- A field of a record that is read into drafts of type `σ`. -/
structure Field (σ : Type) where
  name : String
  required : Bool
  isSet : σ → Bool
  read : σ → Reader σ

/-- A field that is kept in a slot of the draft. -/
def Field.slot {σ α : Type} (name : String) (required : Bool) (get : σ → Option α)
    (put : σ → α → σ) (read : Reader α) : Field σ :=
  { name, required
    isSet := fun draft => (get draft).isSome
    read := fun draft depth c => do
      let (a, c) ← read depth c
      return (put draft a, c) }

/-- A kind of record: its name in messages, and its fields in the order of their declaration. -/
structure Schema (σ : Type) where
  title : String
  fields : List (Field σ)

namespace Schema

variable {σ : Type}

/-- What the record is called where the number of its fields matters. -/
def counted (schema : Schema σ) : String :=
  schema.title ++ " with " ++ toString schema.fields.length ++ " elements"

/-- The fields of a record in array form from the one at `index` on. Where the array ends early,
fields that are not required are passed over. -/
def fromItems (schema : Schema σ) (depth : Nat) :
    List (Field σ) → Nat → Bool → σ → Cursor → Reading (σ × Cursor)
  | [], _, _, draft, c => .ok (draft, c)
  | field :: rest, index, first, draft, c => do
    match ← nextItem first c with
    | some c =>
      let (draft, c) ← field.read draft depth c
      fromItems schema depth rest (index + 1) false draft c
    | none =>
      if field.required then c.failPending (.wrongLength index schema.counted)
      else fromItems schema depth rest (index + 1) first draft c

/-- Refuses a draft that lacks a required field. -/
def finish (schema : Schema σ) (draft : σ) (c : Cursor) : Reading (σ × Cursor) :=
  match schema.fields.find? fun field => field.required && !field.isSet draft with
  | some field => c.failPending (.missingField field.name)
  | none => .ok (draft, c)

/-- The members of a record in object form. A field that is named twice is refused as soon as its
name is read again; members that are no fields are passed over. -/
def fromMembers (schema : Schema σ) (depth : Nat) :
    Nat → Bool → σ → Cursor → Reading (σ × Cursor)
  | 0, _, _, c => c.failAhead .endInObject
  | steps + 1, first, draft, c => do
    match ← nextName first c with
    | none => schema.finish draft c
    | some (name, c) =>
      match schema.fields.find? fun field => field.name = name with
      | some field =>
        if field.isSet draft then c.failPending (.duplicateField name)
        else
          let (draft, c) ← field.read draft depth (← colon c)
          fromMembers schema depth steps false draft c
      | none => fromMembers schema depth steps false draft (← skipValue (← colon c))

/-- Reads a record, starting from an empty draft. -/
def reader (schema : Schema σ) (empty : σ) : Reader σ := fun depth c => do
  let (head, c) ← headReader c
  match head with
  | .sequence =>
    inList depth (fun depth c => schema.fromItems depth schema.fields 0 true empty c) c
  | .map =>
    inObject depth (fun depth c => schema.fromMembers depth (c.ahead.length + 1) true empty c) c
  | other => other.mismatch schema.title c

end Schema
end Fieldbus.Json
