set_option autoImplicit false

namespace Delivery

structure Binary64 where
  negative : Bool
  significand : Nat
  exponent : Int
  deriving DecidableEq, Repr

namespace Binary64

def minExponent : Int := -1074

def maxExponent : Int := 971

def zero (negative : Bool) : Binary64 := ⟨negative, 0, minExponent⟩

def leastNormal : Nat := 4503599627370496

def significandBound : Nat := 9007199254740992

def Canonical (x : Binary64) : Prop :=
  x.significand < significandBound ∧ minExponent ≤ x.exponent ∧ x.exponent ≤ maxExponent ∧
    (leastNormal ≤ x.significand ∨ x.exponent = minExponent)

def inUnits (num den : Nat) (exponent : Int) : Nat × Nat :=
  if 0 ≤ exponent then (num, den * Nat.pow 2 exponent.toNat)
  else (num * Nat.pow 2 (-exponent).toNat, den)

def unitExponent (num den : Nat) : Int :=
  let guess : Int := (Nat.log2 num : Int) - Nat.log2 den - 52
  let (n, d) := inUnits num den guess
  max minExponent (if n / d < leastNormal then guess - 1 else guess)

def roundEven (num den : Nat) : Nat :=
  let whole := num / den
  let twice := 2 * (num % den)
  if twice < den || (twice == den && whole % 2 == 0) then whole else whole + 1

-- The number nearest to `num / den`; none when that is beyond the largest finite number.
def ofRatio (negative : Bool) (num den : Nat) : Option Binary64 :=
  if num = 0 then some (zero negative)
  else
    let exponent := unitExponent num den
    let (n, d) := inUnits num den exponent
    let rounded := roundEven n d
    let x : Binary64 :=
      if rounded = significandBound then ⟨negative, leastNormal, exponent + 1⟩
      else ⟨negative, rounded, exponent⟩
    if x.exponent ≤ maxExponent then some x else none

def ratio (x : Binary64) : Nat × Nat :=
  if 0 ≤ x.exponent then (x.significand * Nat.pow 2 x.exponent.toNat, 1)
  else (x.significand, Nat.pow 2 (-x.exponent).toNat)

def mul? (x y : Binary64) : Option Binary64 :=
  let (a, b) := x.ratio
  let (c, d) := y.ratio
  ofRatio (x.negative != y.negative) (a * c) (b * d)

def div? (x y : Binary64) : Option Binary64 :=
  let (a, b) := x.ratio
  let (c, d) := y.ratio
  ofRatio (x.negative != y.negative) (a * d) (b * c)

def tenPower (exponent : Nat) : Binary64 :=
  (ofRatio false (Nat.pow 10 exponent) 1).getD (zero false)

def maxTenPower : Nat := 308

def shrink (x : Binary64) (exponent : Nat) : Binary64 :=
  if x.significand = 0 then x
  else if exponent ≤ maxTenPower then (x.div? (tenPower exponent)).getD (zero x.negative)
  else shrink ((x.div? (tenPower maxTenPower)).getD (zero x.negative)) (exponent - maxTenPower)
termination_by exponent
decreasing_by simp only [maxTenPower] at *; omega

-- What `significand * 10 ^ exponent` is read as: the significand is rounded first, then its product or
-- quotient with the power of ten. None when a nonzero number is too large.
def ofDecimal (negative : Bool) (significand : Nat) (exponent : Int) : Option Binary64 := do
  let x ← ofRatio negative significand 1
  if 0 ≤ exponent then
    if x.significand = 0 then some x
    else if exponent ≤ maxTenPower then
      let scaled ← (⟨false, x.significand, x.exponent⟩ : Binary64).mul? (tenPower exponent.toNat)
      some { scaled with negative }
    else none
  else some { shrink { x with negative := false } (-exponent).toNat with negative }

end Binary64

end Delivery
