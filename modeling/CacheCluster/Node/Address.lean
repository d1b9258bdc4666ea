import CacheCluster.Text.Digits

/-!
# Socket addresses

An IP address with a port.  Addresses of version six are written with the longest run of at least
two zero groups cut out, and those that stand for a version four address end in it.

## Main definitions

* `Ip`, `SocketAddress` : the addresses.
* `SocketAddress.text` : the written form.
* `SocketAddress.parse?` : its reader, which also takes leading zeros in ports and groups, and a
  version four address in place of any two groups at the end of a run.
-/

namespace CacheCluster

open Text (readNumber?)

/-- An address of version four. -/
structure Ipv4 where
  a : UInt8
  b : UInt8
  c : UInt8
  d : UInt8
  deriving DecidableEq, Inhabited

/-- An address of version four or six. -/
inductive Ip
  | v4 (address : Ipv4)
  | v6 (groups : Vector UInt16 8) (scope : UInt32)
  deriving DecidableEq

instance : Inhabited Ip := ⟨.v4 default⟩

/-- An address with a port. -/
structure SocketAddress where
  ip : Ip
  port : UInt16
  deriving DecidableEq, Inhabited

/-! ## Writing -/

/-- An address of version four in dotted form. -/
def Ipv4.text (x : Ipv4) : String := s!"{x.a}.{x.b}.{x.c}.{x.d}"

/-- The version four address of a group and the next one. -/
def Ipv4.ofGroups (high low : UInt16) : Ipv4 :=
  ⟨(high.toNat / 256).toUInt8, high.toUInt8, (low.toNat / 256).toUInt8, low.toUInt8⟩

/-- The groups of a version four address. -/
def Ipv4.groups (x : Ipv4) : List UInt16 :=
  [(x.a.toNat * 256 + x.b.toNat).toUInt16, (x.c.toNat * 256 + x.d.toNat).toUInt16]

/-- Groups in hexadecimal between colons. -/
def groupsText (groups : List UInt16) : String :=
  ":".intercalate (groups.map fun g => String.ofList (Nat.toDigits 16 g.toNat))

/-- The length of the run of zeros in front. -/
def leadingZeros (groups : List UInt16) : Nat := (groups.takeWhile (· == 0)).length

/-- The place and the length of the first of the longest runs of zeros, from place `i` on. -/
def longestZeros (i : Nat) : List UInt16 → Nat × Nat
  | [] => (i, 0)
  | g :: rest =>
    let here := leadingZeros (g :: rest)
    let later := longestZeros (i + 1) rest
    if later.2 ≤ here then (i, here) else later

/-- Groups without the first of the longest runs of zeros, if that has two of them. -/
def compressedText (groups : List UInt16) : String :=
  let (start, length) := longestZeros 0 groups
  if 1 < length then
    groupsText (groups.take start) ++ "::" ++ groupsText (groups.drop (start + length))
  else groupsText groups

/-- Eight groups, of which the last two may be an address of version four. -/
def ipv6Text (groups : List UInt16) : String :=
  match groups with
  | [0, 0, 0, 0, 0, 0xFFFF, high, low] => "::ffff:" ++ (Ipv4.ofGroups high low).text
  | _ => compressedText groups

/-- The written form of an address with a port. -/
def SocketAddress.text (x : SocketAddress) : String :=
  match x.ip with
  | .v4 address => s!"{address.text}:{x.port}"
  | .v6 groups scope =>
    let scope := if scope = 0 then "" else s!"%{scope}"
    s!"[{ipv6Text groups.toList}{scope}]:{x.port}"

/-! ## Reading -/

/-- A part of a version four address, which has no leading zero. -/
def readOctet? (cs : List Char) : Option (UInt8 × List Char) := do
  let (n, rest) ← readNumber? 10 256 cs
  let length := cs.length - rest.length
  if 3 < length ∨ (cs.head? = some '0' ∧ 1 < length) then none
  else some (n.toUInt8, rest)

/-- A group of a version six address, of at most four digits. -/
def readGroup? (cs : List Char) : Option (UInt16 × List Char) := do
  let (n, rest) ← readNumber? 16 0x10000 cs
  if 4 < cs.length - rest.length then none else some (n.toUInt16, rest)

/-- A character that has to be in front. -/
def readChar? (c : Char) : List Char → Option (List Char)
  | [] => none
  | x :: rest => if x = c then some rest else none

/-- An address of version four in front. -/
def readIpv4? (cs : List Char) : Option (Ipv4 × List Char) := do
  let (a, cs) ← readOctet? cs
  let (b, cs) ← readOctet? (← readChar? '.' cs)
  let (c, cs) ← readOctet? (← readChar? '.' cs)
  let (d, cs) ← readOctet? (← readChar? '.' cs)
  some (⟨a, b, c, d⟩, cs)

/-- At most `limit` groups in front, the first without a colon before it unless `between`, whether
they end in a version four address, and what follows them. -/
def readGroups (between : Bool) : Nat → List Char → List UInt16 × Bool × List Char
  | 0, cs => ([], false, cs)
  | limit + 1, cs =>
    let start? := if between then readChar? ':' cs else some cs
    match if 0 < limit then start?.bind readIpv4? else none with
    | some (address, rest) => (address.groups, true, rest)
    | none =>
      match start?.bind readGroup? with
      | some (g, rest) =>
        let (groups, endsInIpv4, rest) := readGroups true limit rest
        (g :: groups, endsInIpv4, rest)
      | none => ([], false, cs)

/-- The eight groups of a head and a tail, with zeros between them. -/
def fillGroups (head tail : List UInt16) : Vector UInt16 8 :=
  let zeros := List.replicate (8 - head.length - tail.length) 0
  .ofFn fun i => (head ++ zeros ++ tail).getD i 0

/-- The groups of a version six address in front. -/
def readIpv6? (cs : List Char) : Option (Vector UInt16 8 × List Char) := do
  let (head, endsInIpv4, rest) := readGroups false 8 cs
  if head.length = 8 then some (fillGroups head [], rest)
  else if endsInIpv4 then none
  else
    let rest ← readChar? ':' (← readChar? ':' rest)
    let (tail, _, rest) := readGroups false (7 - head.length) rest
    some (fillGroups head tail, rest)

/-- A port behind a colon. -/
def readPort? (cs : List Char) : Option (UInt16 × List Char) := do
  let (n, rest) ← readNumber? 10 0x10000 (← readChar? ':' cs)
  some (n.toUInt16, rest)

/-- A scope behind a percent sign, or none. -/
def readScope (cs : List Char) : UInt32 × List Char :=
  match (readChar? '%' cs).bind (readNumber? 10 0x100000000) with
  | some (n, rest) => (n.toUInt32, rest)
  | none => (0, cs)

/-- The address that a whole text is. -/
def SocketAddress.parse? (s : String) : Option SocketAddress :=
  let cs := s.toList
  let v4? := do
    let (address, rest) ← readIpv4? cs
    let (port, rest) ← readPort? rest
    some (SocketAddress.mk (.v4 address) port, rest)
  let v6? := do
    let (groups, rest) ← readIpv6? (← readChar? '[' cs)
    let (scope, rest) := readScope rest
    let (port, rest) ← readPort? (← readChar? ']' rest)
    some (SocketAddress.mk (.v6 groups scope) port, rest)
  match v4?.or v6? with
  | some (x, []) => some x
  | _ => none

end CacheCluster
