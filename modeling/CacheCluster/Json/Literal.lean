import CacheCluster.Json.Reader

/-!
# JSON strings

The text between two quotes, with its escapes taken out.  Escaped surrogates stand for one
character when they come as a pair and for none otherwise.

## Main definitions

* `Piece`, `textPiece` : what the next bytes of a string stand for.
* `textBody` : the characters up to the closing quote.
* `skipBody` : the same without the characters, for values that nobody reads.
-/

namespace CacheCluster.Json

/-- What the next bytes of a string stand for.  Lengths count the bytes after the first. -/
inductive Piece
  | close
  | char (c : Char) (more : Nat)
  | illFormed
  | fault (cause : Cause) (more : Nat)

/-- The value of a hexadecimal digit. -/
def hexValue? (b : UInt8) : Option Nat :=
  let n := b.toNat
  if 0x30 ≤ n ∧ n ≤ 0x39 then some (n - 0x30)
  else if 0x41 ≤ n ∧ n ≤ 0x46 then some (n - 0x37)
  else if 0x61 ≤ n ∧ n ≤ 0x66 then some (n - 0x57)
  else none

/-- The value of four hexadecimal digits. -/
def hexQuad? (a b c d : UInt8) : Option Nat := do
  let a ← hexValue? a
  let b ← hexValue? b
  let c ← hexValue? c
  let d ← hexValue? d
  return ((a * 16 + b) * 16 + c) * 16 + d

/-- The character of an escape of one letter. -/
def shortEscape? (b : UInt8) : Option Char :=
  if b = byte '"' then some '"'
  else if b = byte '\\' then some '\\'
  else if b = byte '/' then some '/'
  else if b = byte 'b' then some (Char.ofNat 8)
  else if b = byte 'f' then some (Char.ofNat 12)
  else if b = byte 'n' then some '\n'
  else if b = byte 'r' then some '\r'
  else if b = byte 't' then some '\t'
  else none

/-- The second half of a pair of surrogates of which `high` is the first; `before` bytes stand
between the backslash of the first half and here. -/
def lowSurrogate (high before : Nat) : List UInt8 → Piece
  | [] => .fault .endInString before
  | b :: rest =>
    if b ≠ byte '\\' then .fault .surrogateWithoutPair (before + 1)
    else match rest with
    | [] => .fault .endInString (before + 1)
    | u :: rest =>
      if u ≠ byte 'u' then .fault .surrogateWithoutPair (before + 2)
      else match rest with
      | a :: b :: c :: d :: _ =>
        match hexQuad? a b c d with
        | none => .fault .invalidEscape (before + 6)
        | some low =>
          if 0xDC00 ≤ low ∧ low ≤ 0xDFFF then
            .char (Char.ofNat ((high - 0xD800) * 0x400 + (low - 0xDC00) + 0x10000)) (before + 6)
          else .fault .loneSurrogate (before + 6)
      | short => .fault .endInString (before + 2 + short.length)

/-- The bytes after a backslash and a `u`. -/
def hexEscape : List UInt8 → Piece
  | a :: b :: c :: d :: rest =>
    match hexQuad? a b c d with
    | none => .fault .invalidEscape 5
    | some n =>
      if 0xDC00 ≤ n ∧ n ≤ 0xDFFF then .fault .loneSurrogate 5
      else if 0xD800 ≤ n ∧ n ≤ 0xDBFF then lowSurrogate n 5 rest
      else .char (Char.ofNat n) 5
  | short => .fault .endInString (1 + short.length)

/-- What the bytes from `b` on stand for. -/
def textPiece (b : UInt8) (rest : List UInt8) : Piece :=
  if b = byte '"' then .close
  else if b = byte '\\' then
    match rest with
    | [] => .fault .endInString 0
    | e :: rest =>
      match shortEscape? e with
      | some c => .char c 1
      | none => if e = byte 'u' then hexEscape rest else .fault .invalidEscape 1
  else if b < 0x20 then .fault .controlCharacter 0
  else
    match Text.decodeChar? b rest with
    | some (c, more) => .char c more
    | none => .illFormed

/-- The text up to the closing quote, behind the characters already read in reverse; `size` bytes
of text were read, `ill` of them before the first ill-formed one.  That one is only a fault once
the closing quote is found, and its place is counted back from there in bytes of text. -/
def textBody (acc : List Char) (size : Nat) (ill : Option Nat) (n : Nat) :
    List UInt8 → EStateM.Result Fault Cursor String
  | [] => .error ⟨.endInString, some n, []⟩ ⟨[], n⟩
  | b :: rest =>
    match textPiece b rest with
    | .close =>
      match ill with
      | none => .ok (String.ofList acc.reverse) ⟨rest, n + 1⟩
      | some before => .error ⟨.illFormedText, some (n + 1 - (size - before)), []⟩ ⟨rest, n + 1⟩
    | .char c more => textBody (c :: acc) (size + c.utf8Size) ill (n + 1 + more) (rest.drop more)
    | .illFormed => textBody acc (size + 1) (ill.or (some size)) (n + 1) rest
    | .fault cause more => .error ⟨cause, some (n + 1 + more), []⟩ ⟨rest.drop more, n + 1 + more⟩
  termination_by bytes => bytes.length
  decreasing_by all_goals (simp only [List.length_drop, List.length_cons]; omega)

/-- The text of a string whose opening quote has been read. -/
def stringBody : Reader String := fun c => textBody [] 0 none c.offset c.rest

/-- Moves past the closing quote of a string that nobody reads: escapes are looked at, surrogates
and ill-formed bytes are not. -/
def skipText (n : Nat) : List UInt8 → EStateM.Result Fault Cursor Unit
  | [] => .error ⟨.endInString, some n, []⟩ ⟨[], n⟩
  | b :: rest =>
    if b = byte '"' then .ok () ⟨rest, n + 1⟩
    else if b = byte '\\' then
      match rest with
      | [] => .error ⟨.endInString, some (n + 1), []⟩ ⟨[], n + 1⟩
      | e :: rest =>
        if (shortEscape? e).isSome then skipText (n + 2) rest
        else if e = byte 'u' then
          match rest with
          | a :: b :: c :: d :: rest =>
            if (hexQuad? a b c d).isSome then skipText (n + 6) rest
            else .error ⟨.invalidEscape, some (n + 6), []⟩ ⟨rest, n + 6⟩
          | short =>
            .error ⟨.endInString, some (n + 2 + short.length), []⟩ ⟨[], n + 2 + short.length⟩
        else .error ⟨.invalidEscape, some (n + 2), []⟩ ⟨rest, n + 2⟩
    else if b < 0x20 then .error ⟨.controlCharacter, some n, []⟩ ⟨b :: rest, n⟩
    else skipText (n + 1) rest
  termination_by bytes => bytes.length

/-- Moves past a string whose opening quote has been read. -/
def skipBody : Reader Unit := fun c => skipText c.offset c.rest

end CacheCluster.Json
