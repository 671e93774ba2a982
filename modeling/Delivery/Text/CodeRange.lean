import Delivery.Text.Hexadecimal
set_option autoImplicit false

namespace Delivery.Text

structure CodeRange where
  first : Nat
  last : Nat
  deriving DecidableEq, Repr

namespace CodeRange

def contains (range : CodeRange) (code : Nat) : Bool :=
  range.first ≤ code && code ≤ range.last

def ofHex (cs : List Char) : Nat :=
  cs.foldl (fun value c => value * 16 + (hexValue? c).getD 0) 0

def ofText (text : String) : CodeRange :=
  let first := text.toList.takeWhile (· ≠ '-')
  match text.toList.drop first.length with
  | [] => ⟨ofHex first, ofHex first⟩
  | _ :: last => ⟨ofHex first, ofHex last⟩

def ofLines (lines : List String) : Array CodeRange :=
  ((lines.flatMap fun line => line.splitOn " ").map ofText).toArray

end CodeRange

def isWithin (ranges : Array CodeRange) (c : Char) : Bool :=
  ranges.any fun range => range.contains c.toNat

end Delivery.Text
