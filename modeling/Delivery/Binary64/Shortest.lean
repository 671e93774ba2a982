import Delivery.Binary64.Basic
import Delivery.Text.Decimal
set_option autoImplicit false

namespace Delivery.Binary64

structure Decimal where
  digits : Nat
  exponent : Int
  deriving DecidableEq, Repr

def quarters (x : Binary64) : Nat × Nat × Nat :=
  let middle := 4 * x.significand
  let low :=
    if x.significand = leastNormal ∧ x.exponent ≠ minExponent then middle - 1 else middle - 2
  (low, middle, middle + 2)

-- Two quotients by the common scale `10 ^ exponent` of decimals and `2 ^ (unit - 2)` of quarters: a
-- decimal `c` lies at `c * decimalScale` and a quarter `q` at `q * binaryScale`.
structure Scale where
  decimal : Nat
  binary : Nat

def scale (unit exponent : Int) : Scale :=
  let two := unit - 2
  { decimal := Nat.pow 10 exponent.toNat * Nat.pow 2 (-two).toNat
    binary := Nat.pow 2 two.toNat * Nat.pow 10 (-exponent).toNat }

def readsBack (x : Binary64) (s : Scale) (digits : Nat) : Bool :=
  let (low, _, high) := x.quarters
  let place := digits * s.decimal
  if x.significand % 2 = 0 then low * s.binary ≤ place && place ≤ high * s.binary
  else low * s.binary < place && place < high * s.binary

-- The number's neighbours on the grid of multiples of `10 ^ exponent`, and of those that round to it the
-- nearer one; a tie goes to the even digit.
def onGrid (x : Binary64) (exponent : Int) : Option Decimal :=
  let s := scale x.exponent exponent
  let (_, middle, _) := x.quarters
  let value := middle * s.binary
  let below := value / s.decimal
  let twice := 2 * (value % s.decimal)
  let nearer := if twice < s.decimal || (twice == s.decimal && below % 2 == 0) then below else below + 1
  let farther := if nearer = below then below + 1 else below
  if x.readsBack s nearer then some ⟨nearer, exponent⟩
  else if x.readsBack s farther then some ⟨farther, exponent⟩
  else none

def magnitude (x : Binary64) : Int :=
  let (num, den) := x.ratio
  if den ≤ num then ((Nat.toDigits 10 (num / den)).length : Int) - 1
  else -((Nat.toDigits 10 ((den - 1) / num)).length : Int)

def shortestFrom (x : Binary64) : Nat → Int → Decimal
  | 0, exponent => ⟨0, exponent⟩
  | tries + 1, exponent =>
      match x.onGrid exponent with
      | some d => d
      | none => shortestFrom x tries (exponent - 1)

def Decimal.trimZeros : Nat → Decimal → Decimal
  | 0, d => d
  | tries + 1, d =>
      if d.digits % 10 = 0 ∧ d.digits ≠ 0 then trimZeros tries ⟨d.digits / 10, d.exponent + 1⟩ else d

def shortest (x : Binary64) : Decimal :=
  (x.shortestFrom 18 x.magnitude).trimZeros 18

structure Layout where
  leastPoint : Int
  mostPoint : Int

def jsonLayout : Layout := { leastPoint := -4, mostPoint := 16 }

def Layout.positional (digits : List Char) (point : Int) : List Char :=
  let count := digits.length
  if point ≤ 0 then '0' :: '.' :: (List.replicate (-point).toNat '0' ++ digits)
  else if count ≤ point.toNat then
    digits ++ List.replicate (point.toNat - count) '0' ++ ['.', '0']
  else digits.take point.toNat ++ '.' :: digits.drop point.toNat

def Layout.scientific (digits : List Char) (point : Int) : List Char :=
  let power := point - 1
  let sign := if power < 0 then '-' else '+'
  let exponent := 'e' :: sign :: Text.Decimal.ofNat power.natAbs
  match digits with
  | [] => exponent
  | [d] => d :: exponent
  | d :: rest => d :: '.' :: (rest ++ exponent)

def Layout.write (layout : Layout) (x : Binary64) : List Char :=
  let sign := if x.negative then ['-'] else []
  if x.significand = 0 then sign ++ ['0', '.', '0']
  else
    let d := x.shortest
    let digits := Text.Decimal.ofNat d.digits
    let point := (digits.length : Int) + d.exponent
    sign ++ (if layout.leastPoint ≤ point ∧ point ≤ layout.mostPoint
      then Layout.positional digits point else Layout.scientific digits point)

def toJsonText (x : Binary64) : List Char :=
  jsonLayout.write x

end Delivery.Binary64
