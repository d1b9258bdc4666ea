import CacheCluster.Domain.Name
import CacheCluster.Http.Escape
import CacheCluster.Node.Address

/-!
# Hosts

A host is an address of version six in brackets, an address of version four, or a domain.  What
ends in a number is an address of version four or nothing.

## Main definitions

* `HostError`, `HostError.message` : why a text is no host.
* `endsInNumber`, `ipv4Value?` : numeric hosts, of which the last part fills what is left.
* `readHost` : the one written form of a host.
-/

namespace CacheCluster.Http

/-- Why a text is no host. -/
inductive HostError
  | empty
  | ipv4
  | ipv6
  | domain
  deriving DecidableEq, Repr

/-- The text of a refusal. -/
def HostError.message : HostError → String
  | .empty => "empty host"
  | .ipv4 => "invalid IPv4 address"
  | .ipv6 => "invalid IPv6 address"
  | .domain => "invalid international domain name"

/-- The value of a part of a numeric host: hexadecimal behind `0x`, octal behind `0`. -/
def hostNumber? (cs : List Char) : Option Nat :=
  let (base, digits) :=
    match cs with
    | '0' :: 'x' :: rest => (16, rest)
    | '0' :: 'X' :: rest => (16, rest)
    | '0' :: d :: rest => (8, d :: rest)
    | _ => (10, cs)
  if !cs.isEmpty && digits.all (Text.isDigitOf base) then some (Text.ofDigits base digits) else none

/-- The parts of a host, without an empty one at the end. -/
def hostParts (cs : List Char) : List (List Char) :=
  let parts := Text.partsAt (· == '.') cs
  if parts.getLast? = some [] ∧ 1 < parts.length then parts.dropLast else parts

/-- Whether the last part of a host is a number, so that all of it has to be. -/
def endsInNumber (cs : List Char) : Bool :=
  match (hostParts cs).getLast? with
  | none | some [] => false
  | some last => last.all Char.isDigit || (hostNumber? last).isSome

/-- The value of the parts of a numeric host in what room is left, which the last part fills. -/
def ipv4Value? : Nat → List Nat → Option Nat
  | 0, _ | _, [] => none
  | room + 1, [last] => if last < Nat.pow 256 (room + 1) then some last else none
  | room + 1, n :: rest =>
    if n < 256 then (ipv4Value? room rest).map (n * Nat.pow 256 room + ·) else none

/-- A numeric host in dotted form. -/
def readIpv4Host (cs : List Char) : Except HostError (List Char) :=
  match (hostParts cs).mapM hostNumber? with
  | none => .error .ipv4
  | some parts =>
    match ipv4Value? 4 parts with
    | none => .error .ipv4
    | some n =>
      .ok (Ipv4.text ⟨(n / 0x1000000).toUInt8, (n / 0x10000).toUInt8, (n / 0x100).toUInt8,
        n.toUInt8⟩).toList

/-- The one written form of an address of version six, with the bracket that ends it. -/
def readIpv6Host (cs : List Char) : Except HostError (List Char) :=
  match readIpv6? cs with
  | some (groups, [']']) => .ok ('[' :: (compressedText groups.toList).toList ++ [']'])
  | _ => .error .ipv6

/-- The one written form of a domain, or of the numeric host that it is. -/
def readDomain (cs : List Char) : Except HostError (List Char) :=
  match Domain.written? (Text.decodeLossy (unescape cs)).toList with
  | none => .error .domain
  | some [] => .error .empty
  | some domain => if endsInNumber domain then readIpv4Host domain else .ok domain

/-- The one written form of a host. -/
def readHost (cs : List Char) : Except HostError (List Char) :=
  match cs with
  | [] => .error .empty
  | '[' :: rest => readIpv6Host rest
  | _ => readDomain cs

end CacheCluster.Http
