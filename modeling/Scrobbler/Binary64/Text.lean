import Scrobbler.Binary64.Shortest

/-!
# Writing a binary64 number

The text of a binary64 number is its shortest decimal (`Binary64.shortestOf`), laid out as a
`Style` says: positionally when its scientific exponent lies in a window, with `.0` after an
integer so that the text still reads as a floating-point number, and otherwise as a
significand with one digit before the point and an exponent.
-/

namespace Scrobbler

namespace Binary64

/-- How a decimal is laid out. -/
structure Style where
  /-- The smallest scientific exponent written positionally. -/
  lowestPositional : Int
  /-- The largest scientific exponent written positionally. -/
  highestPositional : Int
  /-- Whether a non-negative exponent carries a plus sign. -/
  plusSign : Bool

/-- Numbers in JSON text and in messages about them: positional from `1e-5` up to below
`1e16`, otherwise `1.5e+300` or `1e-7`. -/
def jsonStyle : Style := ⟨-5, 15, true⟩

/-- `n` zeros. -/
def zeros (n : Nat) : String := String.ofList (List.replicate n '0')

/-- The text of a positive decimal `d` (without trailing zeros) in a style. -/
def Decimal.render (style : Style) (d : Decimal) : String :=
  let ds := toString d.digits
  let n : Int := ds.length
  -- the position of the decimal point, counted from the first digit
  let point := n + d.exponent
  let sci := point - 1
  if style.lowestPositional ≤ sci ∧ sci ≤ style.highestPositional then
    if 0 ≤ d.exponent then ds ++ zeros d.exponent.toNat ++ ".0"
    else if 0 < point then
      String.ofList (ds.toList.take point.toNat) ++ "." ++ String.ofList (ds.toList.drop point.toNat)
    else "0." ++ zeros (-point).toNat ++ ds
  else
    let first := String.ofList (ds.toList.take 1)
    let rest := String.ofList (ds.toList.drop 1)
    let mantissa := if rest.isEmpty then first else first ++ "." ++ rest
    let sign := if sci < 0 then "-" else if style.plusSign then "+" else ""
    mantissa ++ "e" ++ sign ++ toString sci.natAbs

/-- The text of a binary64 number in a style: its shortest decimal with a leading `-` for a
negative number, `0.0` or `-0.0` for the zeros. -/
def toText (style : Style) (x : Binary64) : String :=
  match x.kind with
  | .nan => "NaN"
  | .infinite neg => if neg then "-inf" else "inf"
  | .finite neg m e =>
    let sign := if neg then "-" else ""
    if m = 0 then sign ++ "0.0" else sign ++ (shortestOf m e).render style

end Binary64

end Scrobbler
