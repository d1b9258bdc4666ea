import CacheCluster.Text.Digits
import CacheCluster.Yaml.Node

/-!
# Reading YAML values of a type

Scalars are taken as they are written where a text is wanted.  Truth values and numbers have to be
plain, or literal with the tag of their type.  Nothing at all stands for an empty mapping or an
empty sequence.  Aliases are followed a hundred times for each mark of the document and no more,
so that no small document stands for a huge value.

## Main definitions

* `Shape`, `Shape.run?` : a reader of the nodes of a document, and its use for a whole one.
* `follow` : the node that a node stands for.
* `text`, `flag`, `natural`, `optional`, `names`, `mappingOf` : values of a type.
* `Field`, `record` : records.
-/

namespace CacheCluster.Yaml

/-- What is read while so many more aliases may be followed. -/
abbrev Reading (α : Type) := StateT Nat Option α

/-- A reader of the nodes of a document. -/
abbrev Shape (α : Type) := Document → Node → Reading α

/-- The node that a node stands for. -/
def follow (d : Document) : Node → Reading Node
  | .alias id => do
    match ← get with
    | 0 => failure
    | left + 1 =>
      set left
      liftM (d.anchored.lookup id)
  | n => pure n

namespace Shape

variable {α : Type}

/-- The value of a whole document. -/
def run? (r : Shape α) (d : Document) : Option α := (r d d.root).run' (100 * d.root.size)

/-- A scalar as it is written. -/
def text : Shape String := fun d n => do
  match ← follow d n with
  | .scalar _ _ s => pure s
  | _ => failure

/-- The text of a scalar that is plain, or literal with the tag of a type. -/
def plain (type : String) : Shape String := fun d n => do
  match ← follow d n with
  | .scalar .plain _ s => pure s
  | .scalar .literal (some tag) s => if tag = type then pure s else failure
  | _ => failure

/-- A truth value. -/
def flag : Shape Bool := fun d n => do
  match ← plain "tag:yaml.org,2002:bool" d n with
  | "true" | "True" | "TRUE" => pure true
  | "false" | "False" | "FALSE" => pure false
  | _ => failure

/-- The number that digits of a base are. -/
def digitsOf? (base : Nat) (cs : List Char) : Option Nat :=
  match Text.readNumber? base 0x10000000000000000 cs with
  | some (n, []) => some n
  | _ => none

/-- The number that a text is: decimal without needless zeros in front, or in another base behind
its mark, and perhaps behind a plus sign. -/
def numberOf? (s : String) : Option Nat :=
  let unsigned (cs : List Char) : Option Nat :=
    match cs with
    | '0' :: 'x' :: digits => digitsOf? 16 digits
    | '0' :: 'o' :: digits => digitsOf? 8 digits
    | '0' :: 'b' :: digits => digitsOf? 2 digits
    | '0' :: _ :: _ => none
    | _ => digitsOf? 10 cs
  match s.toList with
  | '+' :: cs => unsigned cs
  | cs => unsigned cs

/-- A number below a bound. -/
def natural (bound : Nat) : Shape Nat := fun d n => do
  let s ← plain "tag:yaml.org,2002:int" d n
  liftM ((numberOf? s).filter (· < bound))

/-- Whether a text is one of those that stand for nothing. -/
def isNull (s : String) : Bool := s == "null" || s == "Null" || s == "NULL" || s == "~"

/-- A value, or a plain scalar that stands for nothing. -/
def optional (r : Shape α) : Shape (Option α) := fun d n => do
  match ← follow d n with
  | .scalar .plain (some "tag:yaml.org,2002:null") s => if isNull s then pure none else failure
  | .scalar .plain none s =>
    if s.isEmpty || isNull s then pure none else some <$> r d (.scalar .plain none s)
  | n => some <$> r d n

/-- Whether nothing is written. -/
def isNothing : Node → Bool
  | .scalar .plain _ s => s.isEmpty
  | _ => false

/-- The items of a sequence. -/
def list (r : Shape α) : Shape (List α) := fun d n => do
  match ← follow d n with
  | .sequence items => items.mapM (r d)
  | n => if isNothing n then pure [] else failure

/-- The entries of a mapping. -/
def entries {κ : Type} (key : Shape κ) (value : Shape α) : Shape (List (κ × α)) := fun d n => do
  match ← follow d n with
  | .mapping entries => entries.mapM fun e => do return (← key d e.1, ← value d e.2)
  | n => if isNothing n then pure [] else failure

/-! ## Records -/

/-- A field of records of a type. -/
structure Field (α : Type) where
  name : String
  required : Bool
  read : Document → Node → α → Reading α

/-- A field that is set to a value. -/
def Field.of {β : Type} (name : String) (required : Bool) (r : Shape β) (set : β → α → α) :
    Field α :=
  ⟨name, required, fun d n a => (set · a) <$> r d n⟩

/-- Reads the entries of a mapping into a record; a field may come once only. -/
def fields (fs : List (Field α)) (d : Document) :
    List String → List (Node × Node) → α → Reading α
  | seen, [], a =>
    if fs.all fun f => !f.required || seen.contains f.name then pure a else failure
  | seen, (key, value) :: rest, a => do
    let name ← text d key
    match fs.find? fun f => f.name == name with
    | some f =>
      if seen.contains name then failure
      else fields fs d (name :: seen) rest (← f.read d value a)
    | none => fields fs d seen rest a

/-- A record, given what holds before any field of it is read. -/
def record (start : α) (fs : List (Field α)) : Shape α := fun d n => do
  match ← follow d n with
  | .mapping entries => fields fs d [] entries start
  | n => if isNothing n then fields fs d [] [] start else failure

end Shape

end CacheCluster.Yaml
