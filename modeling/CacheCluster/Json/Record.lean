import CacheCluster.Json.Shape

/-!
# Reading records

A record is written as an object with its fields in any order, or as an array of their values
in the order of declaration.  Unknown keys are passed over, a field may come once only, and a
field that has no value of its own has to come.

## Main definitions

* `Field`, `Record` : the fields of a record of a type, and how each is read into it.
* `record` : a record.
* `whole`, `front` : the record that a text is, or begins with.
-/

namespace CacheCluster.Json

variable {α : Type}

/-- A field of records of a type. -/
structure Field (α : Type) where
  name : String
  required : Bool
  read : α → Reader α

/-- A field that has to be there. -/
def Field.mandatory {β : Type} (name : String) (r : Reader β) (set : β → α → α) : Field α :=
  ⟨name, true, fun a => do return set (← r) a⟩

/-- A field that may be left out. -/
def Field.defaulted {β : Type} (name : String) (r : Reader β) (set : β → α → α) : Field α :=
  ⟨name, false, fun a => do return set (← r) a⟩

/-- The fields of a type, with the record that holds before any of them is read. -/
structure Record (α : Type) where
  name : String
  start : α
  fields : List (Field α)

namespace Record

/-- The field of a name. -/
def field? (s : Record α) (name : String) : Option (Field α) :=
  s.fields.find? fun f => f.name == name

/-- What is expected of a text. -/
def title (s : Record α) : String := "struct " ++ s.name

/-- What is expected of an array. -/
def length (s : Record α) : String :=
  s!"{s.title} with {s.fields.length} element" ++ if s.fields.length = 1 then "" else "s"

/-- The fields ahead, read into a record.  The names that were seen are kept.  The fuel bounds the
number of bytes ahead. -/
def members (s : Record α) : Nat → Bool → List String → α → Reader α
  | 0, _, _, a => pure a
  | fuel + 1, first, seen, a => do
    match ← key? first with
    | some key =>
      match s.field? key with
      | some f =>
        if seen.contains key then refuse (.duplicateField key)
        else
          colon
          let a ← inside (.key key) (f.read a)
          s.members fuel false (key :: seen) a
      | none =>
        colon
        inside (.key key) (skipValue fuel)
        s.members fuel false seen a
    | none =>
      match s.fields.find? fun f => f.required && !seen.contains f.name with
      | some f => refuse (.missingField f.name)
      | none => pure a

/-- The values of fields ahead, read into a record from the one with a given index on. -/
def positions (s : Record α) : List (Field α) → Nat → α → Reader α
  | [], _, a => pure a
  | f :: rest, i, a => do
    if ← nextElement (i == 0) then
      let a ← inside (.index i) (f.read a)
      s.positions rest (i + 1) a
    else if f.required then refuse (.wrongLength i s.length)
    else s.positions rest (i + 1) a

end Record

/-- A record. -/
def record (s : Record α) : Reader α :=
  expecting s.title fun b =>
    if b = byte '\x7b' then
      some do
        skip
        let c ← get
        andFinally (s.members (c.rest.length + 1) true [] s.start) endObject
    else if b = byte '[' then
      some do
        skip
        andFinally (s.positions s.fields 0 s.start) endArray
    else none

/-- The value at the front of a text. -/
def front (r : Reader α) (bytes : List UInt8) : Except Fault α :=
  match r ⟨bytes, 0⟩ with
  | .ok a _ => .ok a
  | .error f _ => .error f

/-- Reads up to the end of the text. -/
def atEnd : Reader Unit := do
  if (← ahead).isSome then failAhead .trailingCharacters

/-- The value that a text is. -/
def whole (r : Reader α) (bytes : List UInt8) : Except Fault α :=
  front (do let a ← r; atEnd; pure a) bytes

end CacheCluster.Json
