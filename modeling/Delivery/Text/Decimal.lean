set_option autoImplicit false

namespace Delivery.Text.Decimal

def extend (value : Nat) : List Char → Option Nat
  | [] => some value
  | c :: rest => if c.isDigit then extend (value * 10 + (c.toNat - 48)) rest else none

def nat? : List Char → Option Nat
  | [] => none
  | cs => extend 0 cs

def int? : List Char → Option Int
  | '-' :: rest => (nat? rest).map fun n => -(n : Int)
  | '+' :: rest => (nat? rest).map Int.ofNat
  | cs => (nat? cs).map Int.ofNat

def fitsInt64 (n : Int) : Bool :=
  -9223372036854775808 ≤ n && n ≤ 9223372036854775807

def fitsUInt32 (n : Int) : Bool :=
  0 ≤ n && n ≤ 4294967295

def int64? (cs : List Char) : Option Int64 :=
  (int? cs).bind fun n => if fitsInt64 n then some (Int64.ofInt n) else none

def uint32? (cs : List Char) : Option UInt32 :=
  let digits := match cs with
    | '+' :: rest => rest
    | cs => cs
  (nat? digits).bind fun n => if fitsUInt32 n then some (UInt32.ofNat n) else none

def unsigned : List Char → List Char
  | '+' :: rest => rest
  | '-' :: rest => rest
  | cs => cs

def isExponent : List Char → Bool
  | [] => true
  | c :: rest => (c = 'e' || c = 'E') && (nat? (unsigned rest)).isSome

def isScientific (cs : List Char) : Bool :=
  let whole := cs.takeWhile Char.isDigit
  match cs.drop whole.length with
  | '.' :: rest =>
      let fraction := rest.takeWhile Char.isDigit
      ¬ (whole.isEmpty && fraction.isEmpty) && isExponent (rest.drop fraction.length)
  | rest => ¬ whole.isEmpty && isExponent rest

def isReal (cs : List Char) : Bool :=
  let magnitude := unsigned cs
  isScientific magnitude ||
    ["inf", "infinity", "nan"].contains (String.ofList (magnitude.map Char.toLower))

def ofNat (n : Nat) : List Char :=
  Nat.toDigits 10 n

def ofInt : Int → List Char
  | .ofNat n => ofNat n
  | .negSucc n => '-' :: ofNat (n + 1)

def ofInt64 (n : Int64) : String :=
  String.ofList (ofInt n.toInt)

def padded (width n : Nat) : List Char :=
  let digits := ofNat n
  List.replicate (width - digits.length) '0' ++ digits

end Delivery.Text.Decimal
