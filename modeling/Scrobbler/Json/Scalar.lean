import Scrobbler.Json.Cursor
import Scrobbler.Binary64.Arith

/-!
# Reading JSON numbers and strings

## Numbers

A number is an optional minus sign, an integer part without leading zeros, an optional
fraction and an optional exponent. Its kind (`Json.Number`) follows from its form: without a
fraction or exponent it is an integer when it fits (below `2^64`, or down to `-2^63` with a
minus sign, minus zero excepted), and a binary64 number otherwise.

A binary64 number is computed from a significand of at most 64 bits and a decimal exponent:
digits past the 64 bits only raise the exponent. The significand is rounded to binary64 and
then multiplied or divided by the binary64 number nearest to `10^k`, for `k` up to 308, a
larger `k` being divided off in steps of `10^308`. This is not the nearest binary64 number to
every decimal, but it is the reading this library must reproduce. A result beyond the finite
range is an error.

## Strings

A string runs to the next unescaped quote. Control characters are refused, and a backslash
starts one of the escapes `\"`, `\\`, `\/`, `\b`, `\f`, `\n`, `\r`, `\t` or `\uXXXX`; two
`\u` escapes form a surrogate pair, and an unpaired surrogate is refused. Skipping a string
(`skipStringBody`) checks only the escapes' form, as a value that is not kept needs no more.
-/

namespace Scrobbler

namespace Json

open Reader

/-- The largest 64-bit unsigned integer. -/
def u64Max : Nat := Nat.pow 2 64 - 1

/-- A decimal exponent kept within 32-bit signed integers. -/
def saturate32 (x : Int) : Int := max (-2147483648) (min x 2147483647)

/-- The binary64 number nearest to `10^k`. -/
def pow10 (k : Nat) : Binary64 := Binary64.ofNat (Nat.pow 10 k)

/-- A number divided by `10^k`, in steps of `10^308` while `k` is larger than 308; a zero
stays zero. -/
def divideByPow10 (f : Binary64) (k : Nat) : Binary64 :=
  if k ≤ 308 then f / pow10 k
  else if f.isZero then f
  else divideByPow10 (f / pow10 308) (k - 308)
termination_by k

/-- The binary64 number of a significand and a decimal exponent, or none past the finite range. -/
def fromParts (significand : Nat) (exponent : Int) : Option Binary64 :=
  let f := Binary64.ofNat significand
  if 0 ≤ exponent then
    if exponent ≤ 308 then
      let g := f * pow10 exponent.toNat
      if g.isFinite then some g else none
    else if f.isZero then some f else none
  else some (divideByPow10 f (-exponent).toNat)

/-- Whether a character is an ASCII digit. -/
def isDigit (c : Char) : Bool := '0' ≤ c ∧ c ≤ '9'

/-- The value of an ASCII digit. -/
def digit (c : Char) : Nat := c.toNat - '0'.toNat

/-- The binary64 number of the parts, with its sign, or a failure past the finite range. -/
def finishFloat (positive : Bool) (significand : Nat) (exponent : Int) : Reader Binary64 :=
  match fromParts significand exponent with
  | some f => pure (if positive then f else f.neg)
  | none => fail .numberOutOfRange

/-- Skips digits. -/
def skipDigits : Nat → Reader Unit
  | 0 => pure ()
  | fuel + 1 => do
    match ← peek with
    | some d => if isDigit d then do eat; skipDigits fuel else pure ()
    | none => pure ()

/-- The fuel for a loop that consumes a character per step. -/
def restFuel : Reader Nat := do return (← get).rest.length + 1

/-- Reads the digits of an exponent after its first one; an exponent past 32 bits makes a
zero for a zero significand or a negative exponent, and an error otherwise. -/
def exponentDigits (positive positiveExp : Bool) (significand : Nat) (start : Int) :
    Nat → Nat → Reader Binary64
  | 0, exp => finishFloat positive significand
      (saturate32 (if positiveExp then start + exp else start - exp))
  | fuel + 1, exp => do
    match ← peek with
    | some d =>
      if isDigit d then do
        eat
        let exp' := 10 * exp + digit d
        if 2147483647 < exp' then
          if significand ≠ 0 ∧ positiveExp then fail .numberOutOfRange
          else do
            skipDigits (← restFuel)
            pure (Binary64.zero (!positive))
        else exponentDigits positive positiveExp significand start fuel exp'
      else exponentDigits positive positiveExp significand start 0 exp
    | none => exponentDigits positive positiveExp significand start 0 exp

/-- Reads an exponent, at its `e` or `E`. -/
def readExponent (positive : Bool) (significand : Nat) (start : Int) : Reader Binary64 := do
  eat
  let positiveExp ← match ← peek with
    | some '+' => do eat; pure true
    | some '-' => do eat; pure false
    | _ => pure true
  match ← peek with
  | none => fail .eofWhileParsingValue
  | some d =>
    if isDigit d then do
      eat
      exponentDigits positive positiveExp significand start (← restFuel) (digit d)
    else do eatByte; fail .invalidNumber

/-- After digits that would overflow the significand: skips the rest and reads an exponent. -/
def afterOverflow (positive : Bool) (significand : Nat) (exponent : Int) : Reader Binary64 := do
  skipDigits (← restFuel)
  match ← peek with
  | some 'e' => readExponent positive significand exponent
  | some 'E' => readExponent positive significand exponent
  | _ => finishFloat positive significand exponent

/-- Reads fraction digits; `scale` counts them so far. -/
def fractionDigits (positive : Bool) (before : Int) : Nat → Nat → Nat → Reader Binary64
  | 0, significand, scale => finishFraction significand scale
  | fuel + 1, significand, scale => do
    match ← peek with
    | some d =>
      if isDigit d then
        if u64Max < 10 * significand + digit d then
          afterOverflow positive significand (before - scale)
        else do
          eat
          fractionDigits positive before fuel (10 * significand + digit d) (scale + 1)
      else finishFraction significand scale
    | none => finishFraction significand scale
where
  /-- A fraction needs a digit, then may have an exponent. -/
  finishFraction (significand scale : Nat) : Reader Binary64 := do
    if scale = 0 then
      match ← peek with
      | some _ => failAhead .invalidNumber
      | none => failAhead .eofWhileParsingValue
    else
      match ← peek with
      | some 'e' => readExponent positive significand (before - scale)
      | some 'E' => readExponent positive significand (before - scale)
      | _ => finishFloat positive significand (before - scale)

/-- Reads a fraction, at its point. -/
def readFraction (positive : Bool) (significand : Nat) (before : Int) : Reader Binary64 := do
  eat
  fractionDigits positive before (← restFuel) significand 0

/-- Reads the digits of an integer part past 64 bits: each raises the exponent. -/
def longDigits (positive : Bool) (significand : Nat) : Nat → Nat → Reader Binary64
  | 0, exponent => finishFloat positive significand exponent
  | fuel + 1, exponent => do
    match ← peek with
    | some d =>
      if isDigit d then do eat; longDigits positive significand fuel (exponent + 1)
      else if d = '.' then readFraction positive significand exponent
      else if d = 'e' ∨ d = 'E' then readExponent positive significand exponent
      else finishFloat positive significand exponent
    | none => finishFloat positive significand exponent

/-- The number of an integer part without fraction or exponent. -/
def integerNumber (positive : Bool) (significand : Nat) : Number :=
  if positive then .nat significand
  else if significand = 0 then .float (Binary64.zero true)
  else if significand ≤ Nat.pow 2 63 then .neg (-(significand : Int))
  else .float (Binary64.ofRatio true significand 1)

/-- After the integer part: a fraction, an exponent, or the end of the number. -/
def afterInteger (positive : Bool) (significand : Nat) : Reader Number := do
  match ← peek with
  | some '.' => return .float (← readFraction positive significand 0)
  | some 'e' => return .float (← readExponent positive significand 0)
  | some 'E' => return .float (← readExponent positive significand 0)
  | _ => pure (integerNumber positive significand)

/-- Reads the digits of the integer part after its first one. -/
def integerDigits (positive : Bool) : Nat → Nat → Reader Number
  | 0, significand => afterInteger positive significand
  | fuel + 1, significand => do
    match ← peek with
    | some d =>
      if isDigit d then
        if u64Max < 10 * significand + digit d then
          return .float (← longDigits positive significand (← restFuel) 0)
        else do
          eat
          integerDigits positive fuel (10 * significand + digit d)
      else afterInteger positive significand
    | none => afterInteger positive significand

/-- Reads a number after its optional minus sign. -/
def readNumber (positive : Bool) : Reader Number := do
  match ← peek with
  | none => fail .eofWhileParsingValue
  | some '0' => do
    eat
    match ← peek with
    | some d => if isDigit d then failAhead .invalidNumber else afterInteger positive 0
    | none => afterInteger positive 0
  | some d =>
    if isDigit d then do
      eat
      integerDigits positive (← restFuel) (digit d)
    else do eatByte; fail .invalidNumber

/-- Skips an exponent, at its `e` or `E`. -/
def skipExponent : Reader Unit := do
  eat
  match ← peek with
  | some '+' => eat
  | some '-' => eat
  | _ => pure ()
  match ← peek with
  | some d => if isDigit d then do eat; skipDigits (← restFuel) else do eatByte; fail .invalidNumber
  | none => fail .invalidNumber

/-- Skips a number after its optional minus sign, checking only its form. -/
def skipNumber : Reader Unit := do
  match ← peek with
  | some '0' => do
    eat
    match ← peek with
    | some d => if isDigit d then failAhead .invalidNumber else pure ()
    | none => pure ()
  | some d =>
    if isDigit d ∧ d ≠ '0' then do eat; skipDigits (← restFuel)
    else do eatByte; fail .invalidNumber
  | none => fail .invalidNumber
  match ← peek with
  | some '.' => do
    eat
    match ← peek with
    | some d => if isDigit d then skipDigits (← restFuel) else failAhead .invalidNumber
    | none => failAhead .invalidNumber
    match ← peek with
    | some 'e' => skipExponent
    | some 'E' => skipExponent
    | _ => pure ()
  | some 'e' => skipExponent
  | some 'E' => skipExponent
  | _ => pure ()

/-- The value of a hexadecimal digit. -/
def hexValue? (c : Char) : Option Nat :=
  if isDigit c then some (digit c)
  else if 'a' ≤ c ∧ c ≤ 'f' then some (c.toNat - 'a'.toNat + 10)
  else if 'A' ≤ c ∧ c ≤ 'F' then some (c.toNat - 'A'.toNat + 10)
  else none

/-- The value of four hexadecimal digits at the head of a list. -/
def hex4? : List Char → Option Nat
  | a :: b :: c :: d :: _ => do
    return 4096 * (← hexValue? a) + 256 * (← hexValue? b) + 16 * (← hexValue? c) + (← hexValue? d)
  | _ => none

/-- The cursor past `n` bytes; a character cut in two leaves the column inside it. -/
def Cursor.skipBytes (c : Cursor) : Nat → Cursor
  | 0 => c
  | n + 1 =>
    match c.rest with
    | [] => c
    | ch :: _ =>
      if ch.utf8Size ≤ n + 1 then (c.advance).skipBytes (n + 1 - ch.utf8Size)
      else { c with rest := [], column := c.column + n + 1 }
termination_by n => n
decreasing_by
  all_goals
    have hc := ch.utf8Size_pos
    omega

/-- Reads the four hexadecimal digits of a `\u` escape: fewer than four bytes left is the end
of the text, four bytes that are not hexadecimal digits an invalid escape past them. -/
def readHex4 : Reader Nat := do
  let c ← get
  match hex4? c.rest with
  | some n => do set (c.skipBytes 4); pure n
  | none =>
    if c.rest.foldl (fun n ch => n + ch.utf8Size) 0 < 4 then do
      set (c.skipBytes 4)
      fail .eofWhileParsingString
    else do
      set (c.skipBytes 4)
      fail .invalidEscape

/-- The character of a one-letter escape. -/
def simpleEscape? (c : Char) : Option Char :=
  if c = '"' then some '"'
  else if c = '\\' then some '\\'
  else if c = '/' then some '/'
  else if c = 'b' then some '\x08'
  else if c = 'f' then some '\x0c'
  else if c = 'n' then some '\n'
  else if c = 'r' then some '\r'
  else if c = 't' then some '\t'
  else none

/-- Reads the part of a `\u` escape after the `u`: a character, or a surrogate pair. -/
def readUnicodeEscape : Reader Char := do
  let n ← readHex4
  if 0xDC00 ≤ n ∧ n ≤ 0xDFFF then fail .loneLeadingSurrogateInHexEscape
  else if n < 0xD800 ∨ 0xDBFF < n then pure (Char.ofNat n)
  else do
    match ← peek with
    | none => fail .eofWhileParsingString
    | some '\\' => eat
    | some _ => do eatByte; fail .unexpectedEndOfHexEscape
    match ← peek with
    | none => fail .eofWhileParsingString
    | some 'u' => eat
    | some _ => do eatByte; fail .unexpectedEndOfHexEscape
    let n2 ← readHex4
    if n2 < 0xDC00 ∨ 0xDFFF < n2 then fail .loneLeadingSurrogateInHexEscape
    else pure (Char.ofNat (0x10000 + (n - 0xD800) * 0x400 + (n2 - 0xDC00)))

/-- Reads an escape after its backslash. -/
def readEscape : Reader Char := do
  match ← peek with
  | none => fail .eofWhileParsingString
  | some 'u' => do eat; readUnicodeEscape
  | some ch =>
    match simpleEscape? ch with
    | some out => do eat; pure out
    | none => do eatByte; fail .invalidEscape

/-- Reads the characters of a string up to its closing quote; `acc` holds those read, last
first. -/
def stringChars : Nat → List Char → Reader String
  | 0, _ => fail .eofWhileParsingString
  | fuel + 1, acc => do
    match ← peek with
    | none => fail .eofWhileParsingString
    | some '"' => do eat; pure (String.ofList acc.reverse)
    | some '\\' => do
      eat
      let ch ← readEscape
      stringChars fuel (ch :: acc)
    | some ch =>
      if ch.toNat < 0x20 then do eat; fail .controlCharacterWhileParsingString
      else do eat; stringChars fuel (ch :: acc)

/-- Reads a string after its opening quote. -/
def readStringBody : Reader String := do stringChars (← restFuel) []

/-- Skips an escape after its backslash, checking its form only. -/
def skipEscape : Reader Unit := do
  match ← peek with
  | none => fail .eofWhileParsingString
  | some 'u' => do eat; discard readHex4
  | some ch =>
    match simpleEscape? ch with
    | some _ => eat
    | none => do eatByte; fail .invalidEscape

/-- Skips the characters of a string up to its closing quote. -/
def skipStringChars : Nat → Reader Unit
  | 0 => fail .eofWhileParsingString
  | fuel + 1 => do
    match ← peek with
    | none => fail .eofWhileParsingString
    | some '"' => eat
    | some '\\' => do eat; skipEscape; skipStringChars fuel
    | some ch =>
      if ch.toNat < 0x20 then fail .controlCharacterWhileParsingString
      else do eat; skipStringChars fuel

/-- Skips a string after its opening quote. -/
def skipStringBody : Reader Unit := do skipStringChars (← restFuel)

end Json

end Scrobbler
