import Toolsmith.Json.Node

/-!
# Lexemes of JSON text

The parts of JSON text that hold no other parts: blanks, words, strings and numbers. Each is
read from the characters that remain, and the result is a token with the characters after it, a
part that can be skipped but has no value, or the end of what can be made out.

A number with neither fraction nor exponent that fits 64 bits is a whole number, save for `-0`.
Every other number is read as its leading digits, as many as fit 64 bits unsigned, times or
divided by a power of ten, with one rounding for each of the three.

## Main definitions

* `Json.Cursor`: the characters that remain and the place before them.
* `Json.Lexed`: the result of reading one lexeme.
* `Json.skipBlanks`, `Json.readWord`, `Json.readString`, `Json.readNumber`.
-/

namespace Toolsmith.Json

/-- What remains of a text, and the place before it. -/
structure Cursor where
  /-- The characters that remain. -/
  rest : List Char
  /-- The place before them. -/
  place : Position

/-- The result of reading one lexeme. -/
inductive Lexed (α : Type) where
  /-- A token and what follows it. -/
  | token (value : α) (next : Cursor)
  /-- A lexeme without a value, which can be skipped, and what follows it. -/
  | unreadable (fault : Fault) (next : Cursor)
  /-- The end of what can be made out, for a reader and for one who skips. -/
  | broken (onRead onSkip : Fault)

/-- A fault at a place, the same for a reader and for one who skips. -/
def Lexed.stuck {α : Type} (cause : Cause) (p : Position) : Lexed α :=
  .broken ⟨cause, some p⟩ ⟨cause, some p⟩

/-- Whether a character is blank in JSON text. -/
def isSpace (c : Char) : Bool :=
  c = ' ' || c = '\n' || c = '\r' || c = '\t'

/-- The text from its first character that is not blank. -/
def skipBlanks : List Char → Position → Cursor
  | [], p => ⟨[], p⟩
  | c :: cs, p => if isSpace c then skipBlanks cs (p.after c) else ⟨c :: cs, p⟩

/-- Reads the letters of a word, which stands for a token. -/
def readWord {α : Type} (value : α) : List Char → List Char → Position → Lexed α
  | [], cs, p => .token value ⟨cs, p⟩
  | _ :: _, [], p => .stuck .endInValue p
  | w :: ws, c :: cs, p =>
    if c = w then readWord value ws cs (p.after c)
    else .stuck .expectedWord (p.ahead (c :: cs))

/-! ### Strings -/

/-- The value of a hexadecimal digit. -/
def hexDigit? (c : Char) : Option Nat :=
  if '0' ≤ c ∧ c ≤ '9' then some (c.toNat - '0'.toNat)
  else if 'a' ≤ c ∧ c ≤ 'f' then some (c.toNat - 'a'.toNat + 10)
  else if 'A' ≤ c ∧ c ≤ 'F' then some (c.toNat - 'A'.toNat + 10)
  else none

/-- The number written by four hexadecimal digits. -/
def hex4? (a b c d : Char) : Option Nat := do
  let a ← hexDigit? a
  let b ← hexDigit? b
  let c ← hexDigit? c
  let d ← hexDigit? d
  return ((a * 16 + b) * 16 + c) * 16 + d

/-- The place after so many bytes; none where fewer remain. -/
def Position.afterBytes (p : Position) : Nat → List Char → Option Position
  | 0, _ => some p
  | _ + 1, [] => none
  | n + 1, c :: cs =>
    if n + 1 < c.utf8Size then some ⟨p.line, p.column + n + 1⟩
    else (p.after c).afterBytes (n + 1 - c.utf8Size) cs

/-- The fault of four characters that are no hexadecimal digits: too few bytes remain, or the
bytes are wrong. -/
def hexFault (cs : List Char) (p : Position) : Fault :=
  match p.afterBytes 4 cs with
  | some q => ⟨.invalidEscape, some q⟩
  | none => ⟨.endInString, some (p.afterAll cs)⟩

/-- The character that a one-letter escape stands for. -/
def unescape? (c : Char) : Option Char :=
  if c = '"' ∨ c = '\\' ∨ c = '/' then some c
  else if c = 'b' then some (Char.ofNat 8)
  else if c = 'f' then some (Char.ofNat 12)
  else if c = 'n' then some '\n'
  else if c = 'r' then some '\r'
  else if c = 't' then some '\t'
  else none

/-- Whether a number is the first half of a surrogate pair. -/
def isHighSurrogate (n : Nat) : Bool :=
  0xD800 ≤ n && n ≤ 0xDBFF

/-- Whether a number is the second half of a surrogate pair. -/
def isLowSurrogate (n : Nat) : Bool :=
  0xDC00 ≤ n && n ≤ 0xDFFF

/-- The place `n` bytes further on the line. -/
def Position.plus (p : Position) (n : Nat) : Position :=
  ⟨p.line, p.column + n⟩

/-- The end of a string, given its characters in reverse and the first fault met in it. -/
def closeString (acc : List Char) (bad : Option Fault) (next : Cursor) : Lexed String :=
  match bad with
  | some f => .unreadable f next
  | none => .token (String.ofList acc.reverse) next

/-- A string that breaks off, given the first fault met in it. -/
def breakString (bad : Option Fault) (onRead onSkip : Fault) : Lexed String :=
  .broken (bad.getD onRead) onSkip

/-- Reads a string after its opening quote. The characters so far are kept in reverse; the first
half of a surrogate pair without the second, and the second without the first, are faults for a
reader but can be skipped. -/
def readString : List Char → Position → List Char → Option Fault → Lexed String
  | [], p, _, bad => breakString bad ⟨.endInString, some p⟩ ⟨.endInString, some p⟩
  | c :: cs, p, acc, bad =>
    if c = '"' then closeString acc bad ⟨cs, p.plus 1⟩
    else if c = '\\' then
      match cs with
      | [] => breakString bad ⟨.endInString, some (p.plus 1)⟩ ⟨.endInString, some (p.plus 1)⟩
      | e :: cs =>
        if e = 'u' then
          match cs with
          | h1 :: h2 :: h3 :: h4 :: cs =>
            match hex4? h1 h2 h3 h4 with
            | none =>
              let f := hexFault (h1 :: h2 :: h3 :: h4 :: cs) (p.plus 2)
              breakString bad f f
            | some n =>
              if isLowSurrogate n then
                readString cs (p.plus 6) acc (bad.or (some ⟨.loneSurrogate, some (p.plus 6)⟩))
              else if isHighSurrogate n then
                match cs with
                | '\\' :: 'u' :: l1 :: l2 :: l3 :: l4 :: cs =>
                  match hex4? l1 l2 l3 l4 with
                  | none =>
                    let f := hexFault (l1 :: l2 :: l3 :: l4 :: cs) (p.plus 8)
                    breakString bad f f
                  | some m =>
                    if isLowSurrogate m then
                      let code := (n - 0xD800) * 0x400 + (m - 0xDC00) + 0x10000
                      readString cs (p.plus 12) (Char.ofNat code :: acc) bad
                    else
                      readString cs (p.plus 12) acc
                        (bad.or (some ⟨.loneSurrogate, some (p.plus 12)⟩))
                | '\\' :: 'u' :: cs =>
                  let f := hexFault cs (p.plus 8)
                  breakString bad f f
                | '\\' :: d :: cs =>
                  let f : Fault := ⟨.unfinishedSurrogate, some ((p.plus 7).ahead (d :: cs))⟩
                  readString ('\\' :: d :: cs) (p.plus 6) acc (bad.or (some f))
                | ['\\'] =>
                  readString ['\\'] (p.plus 6) acc bad
                | [] => readString [] (p.plus 6) acc bad
                | d :: cs =>
                  let f : Fault := ⟨.unfinishedSurrogate, some ((p.plus 6).ahead (d :: cs))⟩
                  readString (d :: cs) (p.plus 6) acc (bad.or (some f))
              else readString cs (p.plus 6) (Char.ofNat n :: acc) bad
          | cs =>
            let f := hexFault cs (p.plus 2)
            breakString bad f f
        else
          match unescape? e with
          | some x => readString cs (p.plus 2) (x :: acc) bad
          | none =>
            let f : Fault := ⟨.invalidEscape, some ((p.plus 1).ahead (e :: cs))⟩
            breakString bad f f
    else if c.toNat < 0x20 then
      breakString bad ⟨.controlCharacter, some (p.ahead (c :: cs))⟩ ⟨.controlCharacter, some p⟩
    else readString cs (p.after c) (c :: acc) bad

/-! ### Numbers -/

/-- The value of a decimal digit. -/
def digitValue (c : Char) : Nat :=
  c.toNat - '0'.toNat

/-- Whether a character is a decimal digit. -/
def isDigit (c : Char) : Bool :=
  '0' ≤ c && c ≤ '9'

/-- A number continued by digits as long as it stays within a limit, and the digits left over. -/
def pushDigits (limit : Nat) : Nat → List Char → Nat × List Char
  | n, [] => (n, [])
  | n, c :: cs =>
    if n * 10 + digitValue c ≤ limit then pushDigits limit (n * 10 + digitValue c) cs
    else (n, c :: cs)

/-- The largest whole number. -/
def maxWhole : Nat := Nat.pow 2 64 - 1

/-- The largest exponent that is kept. -/
def maxExponent : Nat := Nat.pow 2 31 - 1

/-- A number times or divided by a power of ten in steps that stay finite; none where it becomes
infinite. The first argument bounds the number of steps. -/
def scale : Nat → Binary64 → Int → Option Binary64
  | 0, x, _ => some x
  | steps + 1, x, k =>
    if k.natAbs ≤ 308 then
      (Binary64.powTen k.natAbs).bind fun p ↦ if 0 ≤ k then x.mul p else x.div p
    else if x.isZero then some x
    else if 0 ≤ k then none
    else (Binary64.powTen 308).bind fun p ↦ (x.div p).bind fun y ↦ scale steps y (k + 308)

/-- The number `± significand · 10 ^ k`, rounded at each step; none where it is too large. -/
def doubleOfDecimal (negative : Bool) (significand : Nat) (k : Int) : Option Binary64 :=
  (Binary64.ofNat significand).bind fun x ↦
    (scale (k.natAbs / 308 + 2) x k).map fun y ↦ { y with negative := negative }

/-- A number read from its parts, or the fault of one that is too large. -/
def finishNumber (negative : Bool) (significand : Nat) (k : Int) (next : Cursor) : Lexed Number :=
  match doubleOfDecimal negative significand k with
  | some x => .token (.double x) next
  | none => .unreadable ⟨.numberOutOfRange, some next.place⟩ next

/-- Reads the exponent of a number after its `e`. -/
def readExponent (negative : Bool) (significand : Nat) (k : Int) (cs : List Char)
    (p : Position) : Lexed Number :=
  let signed : Bool × List Char × Position := match cs with
    | '+' :: r => (false, r, p.plus 1)
    | '-' :: r => (true, r, p.plus 1)
    | r => (false, r, p)
  let (down, cs, p) := signed
  match cs with
  | [] => .broken ⟨.endInValue, some p⟩ ⟨.invalidNumber, some p⟩
  | c :: r =>
    if isDigit c then
      let digits := cs.takeWhile isDigit
      let next : Cursor := ⟨cs.dropWhile isDigit, p.plus digits.length⟩
      let (e, left) := pushDigits maxExponent 0 digits
      if left.isEmpty then
        finishNumber negative significand (if down then k - e else k + e) next
      else if significand = 0 ∨ down then .token (.double (.zero negative)) next
      else
        .unreadable ⟨.numberOutOfRange, some (p.plus (digits.length - left.length + 1))⟩ next
    else .stuck .invalidNumber (p.ahead (c :: r))

/-- Reads what follows the digits of a number that is no whole number: an exponent or nothing. -/
def readScaled (negative : Bool) (significand : Nat) (k : Int) (next : Cursor) : Lexed Number :=
  match next.rest with
  | c :: r =>
    if c = 'e' ∨ c = 'E' then readExponent negative significand k r (next.place.plus 1)
    else finishNumber negative significand k next
  | [] => finishNumber negative significand k next

/-- Reads the fraction of a number after its point. -/
def readFraction (negative : Bool) (significand : Nat) (k : Int) (cs : List Char)
    (p : Position) : Lexed Number :=
  let digits := cs.takeWhile isDigit
  match digits, cs with
  | [], [] => .broken ⟨.endInValue, some p⟩ ⟨.invalidNumber, some p⟩
  | [], cs => .stuck .invalidNumber (p.ahead cs)
  | digits, cs =>
    let (m, left) := pushDigits maxWhole significand digits
    readScaled negative m (k - (digits.length - left.length : Nat))
      ⟨cs.dropWhile isDigit, p.plus digits.length⟩

/-- A whole number, as one where it fits and is not `-0`. -/
def wholeNumber (negative : Bool) (n : Nat) (next : Cursor) : Lexed Number :=
  if negative then
    if 0 < n ∧ n ≤ Nat.pow 2 63 then .token (.integer (-n)) next
    else finishNumber negative n 0 next
  else .token (.integer n) next

/-- Reads a number after its sign. -/
def readNumber (negative : Bool) (cs : List Char) (p : Position) : Lexed Number :=
  match cs with
  | [] => .broken ⟨.endInValue, some p⟩ ⟨.invalidNumber, some p⟩
  | c :: r =>
    if c = '0' ∧ (r.head?.any isDigit) then .stuck .invalidNumber ((p.plus 1).ahead r)
    else if isDigit c then
      let digits := if c = '0' then ['0'] else cs.takeWhile isDigit
      let after := cs.drop digits.length
      let next : Cursor := ⟨after, p.plus digits.length⟩
      let (m, left) := pushDigits maxWhole 0 digits
      match after with
      | '.' :: r => readFraction negative m left.length r (next.place.plus 1)
      | _ :: _ | [] =>
        if left.isEmpty ∧ ¬ after.head?.any (fun e ↦ e = 'e' || e = 'E') then
          wholeNumber negative m next
        else readScaled negative m left.length next
    else .stuck .invalidNumber (p.ahead (c :: r))

end Toolsmith.Json
