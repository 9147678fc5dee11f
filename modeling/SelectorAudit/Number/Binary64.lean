/-!
# Binary floating-point numbers

A number with a fraction or an exponent is kept as the nearest binary number with 53 significant
bits, a tie going to the even one. Everything is exact arithmetic on natural numbers.
-/

namespace SelectorAudit.Number

set_option autoImplicit false

/-- The size of a finite binary number: `significand * 2 ^ exponent`. -/
structure Magnitude where
  significand : Nat
  exponent : Int
  deriving DecidableEq, Repr

inductive Binary64 where
  | finite (negative : Bool) (magnitude : Magnitude)
  | infinite (negative : Bool)
  | notANumber
  deriving DecidableEq, Repr

def leastExponent : Int := -1074
def greatestExponent : Int := 971

/-- A quotient rounded to the nearest natural number, a tie to the even one. -/
def roundQuotient (numerator denominator : Nat) : Nat :=
  let quotient := numerator / denominator
  let twice := 2 * (numerator % denominator)
  if twice < denominator then quotient
  else if twice == denominator then quotient + quotient % 2
  else quotient + 1

def scaleDown (base numerator denominator : Nat) (exponent : Int) : Nat × Nat :=
  if 0 ≤ exponent then (numerator, denominator * Nat.pow base exponent.toNat)
  else (numerator * Nat.pow base (-exponent).toNat, denominator)

def nearest? (numerator denominator : Nat) : Option Magnitude :=
  if numerator == 0 then some ⟨0, leastExponent⟩
  else
    let estimate := (numerator.log2 : Int) - (denominator.log2 : Int) - 53
    let scaled := scaleDown 2 numerator denominator estimate
    let fitted := if Nat.pow 2 53 ≤ scaled.1 / scaled.2 then estimate + 1 else estimate
    let exponent := max fitted leastExponent
    let parts := scaleDown 2 numerator denominator exponent
    let significand := roundQuotient parts.1 parts.2
    let result : Magnitude :=
      if significand == Nat.pow 2 53 then ⟨Nat.pow 2 52, exponent + 1⟩ else ⟨significand, exponent⟩
    if greatestExponent < result.exponent then none else some result

def Binary64.ofDecimal (negative : Bool) (digits : Nat) (exponent : Int) : Binary64 :=
  let size := (Nat.toDigits 10 digits).length
  if digits == 0 then .finite negative ⟨0, leastExponent⟩
  else if 400 < (size : Int) + exponent then .infinite negative
  else if (size : Int) + exponent < -400 then .finite negative ⟨0, leastExponent⟩
  else
    let parts := scaleDown 10 digits 1 (-exponent)
    match nearest? parts.1 parts.2 with
    | some magnitude => .finite negative magnitude
    | none => .infinite negative

end SelectorAudit.Number
