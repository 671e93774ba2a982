set_option autoImplicit false

namespace Delivery.Pattern

structure Nest where
  count : Nat := 0
  last : Nat := 0
  deepest : Nat := 0
  deriving DecidableEq, Repr, Inhabited

namespace Nest

def add (nest : Nest) (depth : Nat) : Nest :=
  { count := nest.count + 1, last := depth, deepest := max nest.deepest depth }

def wrapLast (nest : Nest) : Nest :=
  { nest with last := nest.last + 1, deepest := max nest.deepest (nest.last + 1) }

def depth (nest : Nest) : Nat :=
  if nest.count ≤ 1 then nest.deepest else nest.deepest + 1

end Nest

def maxDepth : Nat := 250

end Delivery.Pattern
