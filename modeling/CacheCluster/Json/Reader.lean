import CacheCluster.Json.Basic
import CacheCluster.Json.Fault

/-!
# Reading JSON

A reader takes a value off the front of a byte sequence.  When it fails it still says how far it
came, because the place of a fault may only be known to the value around it.

## Main definitions

* `Cursor`, `Reader` : the bytes ahead with the number already read, and readers of them.
* `fail`, `failAhead`, `refuse`, `placed` : faults at the bytes read, at the next byte, without a
  place, and given the place reached.
* `ahead`, `word`, `digits` : the first byte after blanks, a fixed word, a run of digits.
-/

namespace CacheCluster.Json

/-- The bytes ahead, and how many were read before. -/
structure Cursor where
  rest : List UInt8
  offset : Nat

/-- A reader of a value, which leaves a cursor also when it fails. -/
abbrev Reader (α : Type) := EStateM Fault Cursor α

/-- Fails with a fault just after the bytes read. -/
def fail {α : Type} (cause : Cause) : Reader α := fun c =>
  .error ⟨cause, some c.offset, []⟩ c

/-- Fails with a fault at the next byte, or at the end if there is none. -/
def failAhead {α : Type} (cause : Cause) : Reader α := fun c =>
  .error ⟨cause, some (if c.rest.isEmpty then c.offset else c.offset + 1), []⟩ c

/-- Fails with a fault whose place is for the value around it to say. -/
def refuse {α : Type} (cause : Cause) : Reader α := fun c => .error ⟨cause, none, []⟩ c

/-- Gives a fault without a place the place that was reached. -/
def placed {α : Type} (r : Reader α) : Reader α := fun c =>
  match r c with
  | .error f stop => .error { f with offset? := f.offset?.or (some stop.offset) } stop
  | done => done

/-- Puts a step in front of the path of a fault. -/
def inside {α : Type} (step : Segment) (r : Reader α) : Reader α := fun c =>
  match r c with
  | .error f stop => .error { f with path := step :: f.path } stop
  | done => done

/-- Runs `finish` after `r` whether `r` failed or not; of two faults the first one counts. -/
def andFinally {α : Type} (r : Reader α) (finish : Reader Unit) : Reader α := fun c =>
  match r c with
  | .ok a next =>
    match finish next with
    | .ok () stop => .ok a stop
    | .error f stop => .error f stop
  | .error f next =>
    match finish next with
    | .ok () stop => .error f stop
    | .error _ stop => .error f stop

/-- Moves past the next byte. -/
def skip : Reader Unit := fun c => .ok () ⟨c.rest.tail, c.offset + 1⟩

/-- The next byte, if there is one. -/
def peek : Reader (Option UInt8) := fun c => .ok c.rest.head? c

/-- The next byte, which is moved past, if there is one. -/
def next : Reader (Option UInt8) := fun c =>
  match c.rest with
  | [] => .ok none c
  | b :: rest => .ok (some b) ⟨rest, c.offset + 1⟩

/-- Whether a byte may stand between tokens. -/
def isBlankByte (b : UInt8) : Bool :=
  b = byte ' ' || b = byte '\n' || b = byte '\t' || b = byte '\r'

/-- The cursor after the blanks ahead. -/
def skipBlanks : List UInt8 → Nat → Cursor
  | [], n => ⟨[], n⟩
  | b :: rest, n => if isBlankByte b then skipBlanks rest (n + 1) else ⟨b :: rest, n⟩

/-- The next byte that is no blank, which is not moved past, if there is one. -/
def ahead : Reader (Option UInt8) := fun c =>
  let c' := skipBlanks c.rest c.offset
  .ok c'.rest.head? c'

/-- Reads the bytes of a word one by one. -/
def word : List UInt8 → Reader Unit
  | [] => pure ()
  | expected :: rest => do
    match ← next with
    | none => fail .endInValue
    | some b => if b = expected then word rest else fail .expectedWord

/-- Whether a byte is a decimal digit. -/
def isDigit (b : UInt8) : Bool := 0x30 ≤ b && b ≤ 0x39

/-- The decimal digits ahead, in reverse, in front of those given, with the cursor after them. -/
def digitRun (acc : List UInt8) : List UInt8 → Nat → List UInt8 × Cursor
  | [], n => (acc, ⟨[], n⟩)
  | b :: rest, n => if isDigit b then digitRun (b :: acc) rest (n + 1) else (acc, ⟨b :: rest, n⟩)

/-- The values of the decimal digits ahead. -/
def digits : Reader (List Nat) := fun c =>
  let (run, c') := digitRun [] c.rest c.offset
  .ok (run.reverse.map fun b => b.toNat - 0x30) c'

end CacheCluster.Json
