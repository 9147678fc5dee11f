import SelectorAudit.Number.Binary64

/-!
# The shortest decimal of a binary number

A binary number is written with the fewest decimal digits that read back as the same number, and of
those with the ones nearest to it. Numbers from a ten-thousandth up to ten quadrillion are written
with a point, all others with an exponent of at least two digits.
-/

namespace SelectorAudit.Number

set_option autoImplicit false

structure DecimalDigits where
  digits : Nat
  count : Nat
  point : Int
  deriving DecidableEq, Repr

/-- A magnitude as a fraction of numbers that also express a quarter of its last place. -/
def Magnitude.fraction (magnitude : Magnitude) : Nat × Nat :=
  scaleDown 2 (4 * magnitude.significand) 4 (-magnitude.exponent)

/-- How many quarters of the last place the numbers below and above may lie away and still round to
this one. -/
def Magnitude.reach (magnitude : Magnitude) : Nat × Nat :=
  (if magnitude.significand == Nat.pow 2 52 && leastExponent < magnitude.exponent then 1 else 2, 2)

def Magnitude.readsBack (magnitude : Magnitude) (numerator denominator : Nat) : Bool :=
  let parts := scaleDown 2 numerator denominator magnitude.exponent
  let place := 4 * parts.1
  let centre := 4 * magnitude.significand * parts.2
  let below := magnitude.reach.1 * parts.2
  let above := magnitude.reach.2 * parts.2
  if magnitude.significand % 2 == 0 then centre ≤ place + below && place ≤ centre + above
  else centre < place + below && place < centre + above

/-- The number of decimal digits before the point of a positive fraction, less the zeros behind it:
the least `n` for which the fraction is below `10 ^ n`, searched upwards from a lower bound. -/
def pointFrom (numerator denominator : Nat) : Nat → Int → Int
  | 0, point => point
  | fuel + 1, point =>
      let parts := scaleDown 10 numerator denominator point
      if parts.1 < parts.2 then point else pointFrom numerator denominator fuel (point + 1)

def Magnitude.digitsOf? (magnitude : Magnitude) (point : Int) (count : Nat) :
    Option DecimalDigits :=
  let fraction := magnitude.fraction
  let unit := point - count
  let parts := scaleDown 10 fraction.1 fraction.2 unit
  let down := parts.1 / parts.2
  let readsBack (digits : Nat) : Bool :=
    let value := scaleDown 10 digits 1 (-unit)
    magnitude.readsBack value.1 value.2
  let nearUp := roundQuotient parts.1 parts.2 == down + 1
  let candidates := if nearUp then [down + 1, down] else [down, down + 1]
  match candidates.find? readsBack with
  | some digits => some ⟨digits, count, point⟩
  | none => none

def firstFrom {α : Type} (attempt : Nat → Option α) : Nat → Nat → Option α
  | 0, _ => none
  | fuel + 1, n => (attempt n).or (firstFrom attempt fuel (n + 1))

def Magnitude.shortest (magnitude : Magnitude) : DecimalDigits :=
  if magnitude.significand == 0 then ⟨0, 1, 1⟩
  else
    let fraction := magnitude.fraction
    let point := pointFrom fraction.1 fraction.2 700 (-330)
    match firstFrom (magnitude.digitsOf? point) 17 1 with
    | some found => if found.digits == Nat.pow 10 found.count then ⟨1, 1, point + 1⟩ else found
    | none => ⟨0, 1, 1⟩

def DecimalDigits.render (decimal : DecimalDigits) : String :=
  let digits := Nat.toDigits 10 decimal.digits
  let size := digits.length
  if decimal.point ≤ -4 || 16 < decimal.point then
    let exponent := decimal.point - 1
    let mark := if exponent < 0 then "e-" else "e+"
    let power := Nat.toDigits 10 exponent.natAbs
    let padded := if power.length < 2 then '0' :: power else power
    let fraction := if size ≤ 1 then [] else '.' :: digits.drop 1
    String.ofList (digits.take 1 ++ fraction) ++ mark ++ String.ofList padded
  else if decimal.point ≤ 0 then
    "0." ++ String.ofList (List.replicate (-decimal.point).toNat '0' ++ digits)
  else
    let whole := decimal.point.toNat
    if size ≤ whole then
      String.ofList (digits ++ List.replicate (whole - size) '0') ++ ".0"
    else String.ofList (digits.take whole ++ '.' :: digits.drop whole)

def Binary64.render : Binary64 → String
  | .finite negative magnitude => (if negative then "-" else "") ++ magnitude.shortest.render
  | .infinite negative => if negative then "-inf" else "inf"
  | .notANumber => "nan"

end SelectorAudit.Number
