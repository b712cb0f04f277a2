import Toolsmith.Url.Host

/-!
# Socket addresses

A socket address is an IPv4 or IPv6 address with a port. An IPv6 address stands in brackets, with
a scope after a percent sign if it has one.

## Main definitions

* `CommandLine.Address`: the socket addresses.
* `CommandLine.Address.parse`, `CommandLine.Address.text`: the address of a text and back.
-/

namespace Toolsmith.CommandLine

/-- A socket address. -/
inductive Address where
  /-- An IPv4 address with a port. -/
  | v4 (address port : Nat)
  /-- An IPv6 address as eight numbers of 16 bits, with a scope and a port. -/
  | v6 (groups : List Nat) (scope port : Nat)
deriving DecidableEq

namespace Address

open Url (Host)

/-- The number of one or more decimal digits, below a bound. -/
def decimal? (bound : Nat) (cs : List Char) : Option Nat :=
  if cs.isEmpty then none else (Host.numeral? 10 cs).filter (· < bound)

/-- The number of a port. -/
def port? (cs : List Char) : Option Nat :=
  decimal? (Nat.pow 2 16) cs

/-- The number of an IPv4 address of four decimal parts. -/
def dotted? (cs : List Char) : Option Nat :=
  match (cs.splitOn '.').mapM Host.dottedPart? with
  | some [a, b, c, d] => some (((a * 256 + b) * 256 + c) * 256 + d)
  | _ => none

/-- The numbers of an IPv6 address and its scope. -/
def scoped? (cs : List Char) : Option (List Nat × Nat) :=
  match cs.splitOn '%' with
  | [address] => (Host.ipv6? address).map fun ns ↦ (ns, 0)
  | [address, scope] => do return (← Host.ipv6? address, ← decimal? (Nat.pow 2 32) scope)
  | _ => none

/-- The address of a text. -/
def parse (s : String) : Option Address :=
  match s.toList with
  | '[' :: cs =>
    match cs.splitOn ']' with
    | [inner, ':' :: port] => do
      let (groups, scope) ← scoped? inner
      return .v6 groups scope (← port? port)
    | _ => none
  | cs =>
    match cs.splitOn ':' with
    | [address, port] => do return .v4 (← dotted? address) (← port? port)
    | _ => none

/-- The text of an IPv6 address; one that stands for an IPv4 address ends in it. -/
def groupsText : List Nat → List Char
  | [0, 0, 0, 0, 0, 0xFFFF, a, b] =>
    "::ffff:".toList ++ Host.ipv4Text (a * 65536 + b)
  | groups => Host.ipv6Text groups

/-- The text of an address. -/
def text : Address → String
  | .v4 address port => String.ofList (Host.ipv4Text address) ++ ":" ++ toString port
  | .v6 groups scope port =>
    "[" ++ String.ofList (groupsText groups) ++ (if scope = 0 then "" else "%" ++ toString scope) ++
      "]:" ++ toString port

end Address

end Toolsmith.CommandLine
