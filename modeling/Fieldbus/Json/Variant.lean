import Fieldbus.Json.Reader

/-!
# Reading one of several variants

A variant is written by its name alone, or as an object whose only member has that name and holds
the payload. A variant without payload may be written either way, with `null` for the payload.
-/
namespace Fieldbus.Json

/-- What a variant carries. -/
inductive Payload (α : Type) where
  | nothing (value : α)
  | carried (read : Reader α)

/-- The variants by their names, in the order of their declaration. -/
abbrev Variants (α : Type) := List (String × Payload α)

namespace Variants

variable {α : Type}

/-- The payload of the variant with a name, or the list of known ones. -/
def named (variants : Variants α) (name : String) (c : Cursor) : Reading (Payload α) :=
  match variants.lookup name with
  | some payload => .ok payload
  | none => c.fail (.unknownVariant name (variants.map (·.1)))

/-- The only member of an object, from behind the opening brace. -/
def member (variants : Variants α) (depth : Nat) (c : Cursor) : Reading (α × Cursor) := do
  let c := c.skipLayout
  match c.ahead with
  | [] => c.failAhead .endInObject
  | '"' :: _ =>
    let (name, c) ← textReader (c.skip 1)
    let payload ← variants.named name c
    let c ← colon c
    match payload with
    | .nothing value =>
      let (_, c) ← nullReader depth c
      return (value, c)
    | .carried read => read depth c
  | '\x7d' :: _ => c.failAhead .expectedValue
  | _ => c.failAhead .keyNotString

/-- Passes over the brace behind the only member. -/
def close (c : Cursor) : Reading Cursor :=
  let c := c.skipLayout
  match c.ahead with
  | [] => c.fail .endInObject
  | '\x7d' :: _ => .ok (c.skip 1)
  | _ => c.fail .expectedValue

/-- Reads one of the variants. -/
def reader (variants : Variants α) : Reader α := fun depth c => do
  let c := c.skipLayout
  match c.ahead with
  | [] => c.failAhead .endInValue
  | '"' :: _ =>
    let (name, c) ← textReader (c.skip 1)
    match ← variants.named name c with
    | .nothing value => return (value, c)
    | .carried _ => c.failPending (.wrongType .bareVariant "newtype variant")
  | '\x7b' :: _ =>
    let (value, c) ← entered depth variants.member c
    return (value, ← close c)
  | _ => c.failAhead .expectedValue

end Variants
end Fieldbus.Json
