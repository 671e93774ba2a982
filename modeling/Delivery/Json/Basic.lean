import Delivery.Binary64.Basic
import Delivery.Entries
set_option autoImplicit false

namespace Delivery

inductive Json where
  | null
  | bool (value : Bool)
  | int (value : Int)
  | float (value : Binary64)
  | string (value : String)
  | array (items : List Json)
  | object (members : List (String × Json))
  deriving Repr, Inhabited

namespace Json

mutual
def same : Json → Json → Bool
  | .null, .null => true
  | .bool a, .bool b => a == b
  | .int a, .int b => a == b
  | .float a, .float b => a == b
  | .string a, .string b => a == b
  | .array a, .array b => sameItems a b
  | .object a, .object b => sameMembers a b
  | _, _ => false

def sameItems : List Json → List Json → Bool
  | [], [] => true
  | a :: as, b :: bs => same a b && sameItems as bs
  | _, _ => false

def sameMembers : List (String × Json) → List (String × Json) → Bool
  | [], [] => true
  | (k, a) :: as, (l, b) :: bs => k == l && same a b && sameMembers as bs
  | _, _ => false
end

mutual
theorem same_iff : ∀ first second : Json, same first second = true ↔ first = second
  | .null, second => by cases second <;> simp [same]
  | .bool _, second => by cases second <;> simp [same]
  | .int _, second => by cases second <;> simp [same]
  | .float _, second => by cases second <;> simp [same]
  | .string _, second => by cases second <;> simp [same]
  | .array items, second => by cases second <;> simp [same, sameItems_iff items]
  | .object members, second => by cases second <;> simp [same, sameMembers_iff members]

theorem sameItems_iff : ∀ first second : List Json, sameItems first second = true ↔ first = second
  | [], second => by cases second <;> simp [sameItems]
  | head :: rest, second => by
      cases second <;> simp [sameItems, same_iff head, sameItems_iff rest]

theorem sameMembers_iff : ∀ first second : List (String × Json),
    sameMembers first second = true ↔ first = second
  | [], second => by cases second <;> simp [sameMembers]
  | (key, value) :: rest, second => by
      cases second <;> simp [sameMembers, same_iff value, sameMembers_iff rest, Prod.ext_iff, and_assoc]
end

instance : DecidableEq Json := fun first second =>
  decidable_of_iff _ (same_iff first second)

def ofMembers (members : List (String × Json)) : Json :=
  .object (Entries.ofList members)

def members : Json → List (String × Json)
  | .object members => members
  | _ => []

def get? (key : String) (value : Json) : Option Json :=
  Entries.find? key value.members

def isNull : Json → Bool
  | .null => true
  | _ => false

def fitsInteger (n : Int) : Bool :=
  -9223372036854775808 ≤ n && n ≤ 18446744073709551615

mutual
def WellFormed : Json → Prop
  | .int n => fitsInteger n = true
  | .float x => x.Canonical
  | .array items => WellFormedItems items
  | .object members => Entries.Sorted members ∧ WellFormedMembers members
  | _ => True

def WellFormedItems : List Json → Prop
  | [] => True
  | item :: rest => item.WellFormed ∧ WellFormedItems rest

def WellFormedMembers : List (String × Json) → Prop
  | [] => True
  | (_, value) :: rest => value.WellFormed ∧ WellFormedMembers rest
end

mutual
def FloatFree : Json → Prop
  | .float _ => False
  | .array items => FloatFreeItems items
  | .object members => FloatFreeMembers members
  | _ => True

def FloatFreeItems : List Json → Prop
  | [] => True
  | item :: rest => item.FloatFree ∧ FloatFreeItems rest

def FloatFreeMembers : List (String × Json) → Prop
  | [] => True
  | (_, value) :: rest => value.FloatFree ∧ FloatFreeMembers rest
end

end Json

end Delivery
