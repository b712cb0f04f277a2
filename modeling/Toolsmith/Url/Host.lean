import Toolsmith.Text.Percent

/-!
# URL hosts

A host is a domain name, an IPv4 address or an IPv6 address. A domain name whose last label is a
number is read as an IPv4 address, of one to four parts in decimal, octal or hexadecimal; an
IPv6 address stands in brackets. Both are written in their normal form.

Domain names are in ASCII. International ones would have to be mapped to such names, by tables of
all characters, and that is left out here: a name with another character is refused, and a label
that stands for an international one is taken as it is.

## Main definitions

* `Url.Error`: why a text is no URL.
* `Url.Host`: the hosts, with their text.
* `Url.Host.ofChars`: the host of a URL whose scheme has hosts in the network.
* `Url.Host.ofCharsOutside`: the host of any other URL.
-/

namespace Toolsmith.Url

/-- Why a text is no URL. -/
inductive Error where
  /-- There is no scheme, and nothing that the text could be relative to. -/
  | noBase
  /-- There is no host where one has to be. -/
  | emptyHost
  /-- The port is no number below 65536. -/
  | invalidPort
  /-- The host looks like an IPv4 address but is none. -/
  | invalidIpv4
  /-- The host looks like an IPv6 address but is none. -/
  | invalidIpv6
  /-- The host has a character that no domain name may have. -/
  | invalidDomain
  /-- The host has a character that no host may have. -/
  | invalidHostCharacter
deriving DecidableEq

/-- The wording of an error. -/
def Error.message : Error → String
  | .noBase => "relative URL without a base"
  | .emptyHost => "empty host"
  | .invalidPort => "invalid port number"
  | .invalidIpv4 => "invalid IPv4 address"
  | .invalidIpv6 => "invalid IPv6 address"
  | .invalidDomain => "invalid international domain name"
  | .invalidHostCharacter => "invalid domain character"

/-- A host. -/
inductive Host where
  /-- A domain name, or the text of a host outside the network. It may be empty. -/
  | domain (name : List Char)
  /-- An IPv4 address as a number of 32 bits. -/
  | ipv4 (address : Nat)
  /-- An IPv6 address as eight numbers of 16 bits. -/
  | ipv6 (pieces : List Nat)
deriving DecidableEq

namespace Host

/-! ### IPv4 -/

/-- The number written in a base, none where a character is no digit of it. -/
def numeral? (base : Nat) (cs : List Char) : Option Nat :=
  cs.foldlM (fun n c ↦ do
    let d ← Text.hexValue? c
    if d < base then some (n * base + d) else none) 0

/-- The number that one part of an IPv4 address denotes. -/
def ipv4Number? : List Char → Option Nat
  | [] => none
  | '0' :: x :: rest => if x = 'x' ∨ x = 'X' then numeral? 16 rest else numeral? 8 (x :: rest)
  | digits => numeral? 10 digits

/-- Whether the last label of a domain name, an empty one aside, is a number. -/
def endsInNumber (name : List Char) : Bool :=
  let isNumber (label : List Char) : Bool :=
    (!label.isEmpty && label.all Char.isDigit) || (ipv4Number? label).isSome
  match (name.splitOn '.').reverse with
  | [] :: label :: _ => isNumber label
  | [[]] => false
  | label :: _ => isNumber label
  | [] => false

/-- The IPv4 address of a domain name that ends in a number. -/
def ipv4? (name : List Char) : Option Nat := do
  let labels := name.splitOn '.'
  let labels := if labels.getLast? = some [] then labels.dropLast else labels
  if 4 < labels.length then none
  else
    let numbers ← labels.mapM ipv4Number?
    let last ← numbers.getLast?
    let init := numbers.dropLast
    if Nat.pow 256 (4 - init.length) ≤ last ∨ init.any (255 < ·) then none
    else
      some (init.zipIdx.foldl (fun a e ↦ a + e.1 * Nat.pow 256 (3 - e.2)) last)

/-- The text of an IPv4 address. -/
def ipv4Text (n : Nat) : List Char :=
  ['.'].intercalate ((List.range 4).map fun i ↦ Nat.toDigits 10 (n / Nat.pow 256 (3 - i) % 256))

/-! ### IPv6 -/

/-- The number of a group of one to four hexadecimal digits. -/
def group? (cs : List Char) : Option Nat :=
  if cs.isEmpty ∨ 4 < cs.length then none else numeral? 16 cs

/-- The number of one part of an IPv4 address that ends an IPv6 address: decimal, below 256,
without a leading zero. -/
def dottedPart? : List Char → Option Nat
  | [] => none
  | '0' :: _ :: _ => none
  | digits => if 3 < digits.length then none else (numeral? 10 digits).filter (· < 256)

/-- The last group of an IPv6 address: a group, or an IPv4 address that counts for two. -/
def lastGroup? (cs : List Char) : Option (List Nat) :=
  if cs.contains '.' then
    match (cs.splitOn '.').mapM dottedPart? with
    | some [a, b, c, d] => some [a * 256 + b, c * 256 + d]
    | _ => none
  else (group? cs).map fun n ↦ [n]

/-- The groups of one side of an IPv6 address. Only the side that ends the address may end in an
IPv4 address. -/
def groups? (isLast : Bool) (cs : List Char) : Option (List Nat) := do
  let parts := cs.splitOn ':'
  let init ← parts.dropLast.mapM group?
  let last := parts.getLast?.getD []
  let final ← if isLast then lastGroup? last else (group? last).map fun n ↦ [n]
  return init ++ final

/-- The text before the first pair of colons and the text after it. -/
def splitColons? : List Char → Option (List Char × List Char)
  | ':' :: ':' :: rest => some ([], rest)
  | c :: rest => (splitColons? rest).map fun parts ↦ (c :: parts.1, parts.2)
  | [] => none

/-- The groups of a side that may be empty. -/
def sideGroups? (isLast : Bool) (cs : List Char) : Option (List Nat) :=
  if cs.isEmpty then some [] else groups? isLast cs

/-- The eight numbers of an IPv6 address. -/
def ipv6? (cs : List Char) : Option (List Nat) :=
  match splitColons? cs with
  | none => (groups? true cs).filter (·.length = 8)
  | some (left, right) => do
    let l ← sideGroups? false left
    let r ← sideGroups? true right
    if l.length + r.length ≤ 7 then
      some (l ++ List.replicate (8 - l.length - r.length) 0 ++ r)
    else none

/-- The first of the longest runs of zeros that are at least two long: where it begins, and its
length. -/
def longestZeros (ns : List Nat) : Option (Nat × Nat) :=
  let runs := (List.range ns.length).map fun i ↦ (i, ((ns.drop i).takeWhile (· = 0)).length)
  runs.foldl (fun best run ↦
    if run.2 < 2 then best
    else match best with
      | none => some run
      | some b => if b.2 < run.2 then some run else best) none

/-- The text of groups with colons between them. -/
def groupsText (ns : List Nat) : List Char :=
  [':'].intercalate (ns.map (Nat.toDigits 16))

/-- The text of an IPv6 address without its brackets. -/
def ipv6Text (ns : List Nat) : List Char :=
  match longestZeros ns with
  | none => groupsText ns
  | some (start, length) =>
    groupsText (ns.take start) ++ [':', ':'] ++ groupsText (ns.drop (start + length))

/-! ### Hosts -/

/-- The text of a host. -/
def text : Host → List Char
  | .domain name => name
  | .ipv4 n => ipv4Text n
  | .ipv6 ns => '[' :: (ipv6Text ns ++ [']'])

/-- Whether the host is an empty name. -/
def isEmpty : Host → Bool
  | .domain [] => true
  | _ => false

/-- Whether a character may not stand in a domain name. -/
def isForbiddenInDomain (c : Char) : Bool :=
  c.toNat ≤ 0x20 || 0x7F ≤ c.toNat ||
    ['%', '#', '/', ':', '<', '>', '?', '@', '[', '\\', ']', '^', '|'].contains c

/-- Whether a character may not stand in any host. -/
def isForbidden (c : Char) : Bool :=
  c.toNat = 0 || [' ', '#', '/', ':', '<', '>', '?', '@', '[', '\\', ']', '^', '|'].contains c

/-- The IPv6 address in brackets. -/
def bracketed (cs : List Char) : Except Error Host :=
  if cs.getLast? = some ']' then
    match ipv6? (cs.drop 1).dropLast with
    | some ns => .ok (.ipv6 ns)
    | none => .error .invalidIpv6
  else .error .invalidIpv6

/-- The host of a URL whose scheme has hosts in the network. Names are in lower case, and in ASCII:
an international name is not mapped to one but refused. -/
def ofChars (cs : List Char) : Except Error Host :=
  if cs.head? = some '[' then bracketed cs
  else
    let name := (Text.percentDecode cs).map fun b ↦ (Char.ofNat b.toNat).toLower
    if name.any isForbiddenInDomain then .error .invalidDomain
    else if name.isEmpty then .error .emptyHost
    else if endsInNumber name then
      match ipv4? name with
      | some n => .ok (.ipv4 n)
      | none => .error .invalidIpv4
    else .ok (.domain name)

/-- Whether a character stands for itself where only controls are encoded. -/
def isNoControl (c : Char) : Bool :=
  0x20 ≤ c.toNat && c.toNat < 0x7F

/-- The host of a URL whose scheme has no hosts in the network. -/
def ofCharsOutside (cs : List Char) : Except Error Host :=
  if cs.head? = some '[' then bracketed cs
  else if cs.any isForbidden then .error .invalidHostCharacter
  else .ok (.domain (Text.percentEncode isNoControl cs))

end Host

end Toolsmith.Url
