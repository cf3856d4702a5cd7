/-!
# Integers in decimal text

Reading an integer of a bounded type from text: an optional sign (a minus sign only for a
signed type) followed by one or more ASCII digits, the value between the type's bounds. The
digits are read from the left; the first character that is not a digit, or the first digit
that takes the value past a bound, decides the error. A sign with no digits after it is an
invalid digit; the empty text has an error of its own.
-/

namespace Scrobbler

namespace Text

/-- Why a text is not an integer of a bounded type. -/
inductive IntegerError where
  /-- The text is empty. -/
  | empty
  /-- A character is not a digit where one is expected. -/
  | invalidDigit
  /-- The value is above the largest of the type. -/
  | tooLarge
  /-- The value is below the smallest of the type. -/
  | tooSmall
  deriving DecidableEq, Repr

/-- The wording of an integer error. -/
def IntegerError.message : IntegerError → String
  | .empty => "cannot parse integer from empty string"
  | .invalidDigit => "invalid digit found in string"
  | .tooLarge => "number too large to fit in target type"
  | .tooSmall => "number too small to fit in target type"

/-- A bounded integer type: its least and greatest values, and whether it has a sign. -/
structure IntegerType where
  /-- The least value. -/
  least : Int
  /-- The greatest value. -/
  greatest : Int
  /-- Whether a minus sign is allowed. -/
  signed : Bool

/-- Signed 64-bit integers. -/
def int64 : IntegerType := ⟨-9223372036854775808, 9223372036854775807, true⟩

/-- Unsigned 32-bit integers. -/
def uint32 : IntegerType := ⟨0, 4294967295, false⟩

/-- Whether an integer is a value of the type. -/
def IntegerType.fits (t : IntegerType) (x : Int) : Bool := t.least ≤ x ∧ x ≤ t.greatest

/-- The value of the type nearest to an integer: arithmetic that saturates instead of
overflowing. -/
def IntegerType.clamp (t : IntegerType) (x : Int) : Int := max t.least (min x t.greatest)

/-- The value of an ASCII digit. -/
def digitValue? (c : Char) : Option Nat :=
  if '0' ≤ c ∧ c ≤ '9' then some (c.toNat - '0'.toNat) else none

/-- Reads digits after the sign, `acc` being the magnitude read so far. -/
def IntegerType.readDigits (t : IntegerType) (negative : Bool) :
    Nat → List Char → Except IntegerError Int
  | acc, [] => .ok (if negative then -(acc : Int) else acc)
  | acc, c :: rest =>
    match digitValue? c with
    | none => .error .invalidDigit
    | some d =>
      let acc' := 10 * acc + d
      if negative then
        if -(acc' : Int) < t.least then .error .tooSmall else t.readDigits negative acc' rest
      else
        if t.greatest < acc' then .error .tooLarge else t.readDigits negative acc' rest

/-- Reads an integer of the type from text. -/
def IntegerType.read (t : IntegerType) (s : List Char) : Except IntegerError Int :=
  match s with
  | [] => .error .empty
  | ['+'] => .error .invalidDigit
  | ['-'] => .error .invalidDigit
  | '+' :: rest => t.readDigits false 0 rest
  | '-' :: rest => if t.signed then t.readDigits true 0 rest else t.readDigits false 0 ('-' :: rest)
  | cs => t.readDigits false 0 cs

example : int64.read "-9223372036854775808".toList = .ok (-9223372036854775808) := rfl
example : int64.read "9223372036854775808".toList = .error .tooLarge := rfl
example : uint32.read "+1".toList = .ok 1 := rfl
example : uint32.read "-1".toList = .error .invalidDigit := rfl

end Text

end Scrobbler
