import Delivery.Text.Blank
import Delivery.Text.Hexadecimal
set_option autoImplicit false

namespace Delivery.Pattern

structure Scope where
  spaced : Bool := false
  unicode : Bool := true
  deriving DecidableEq, Repr, Inhabited

namespace Scope

def skipBlanks (inComment : Bool) : List Char → List Char
  | [] => []
  | c :: rest =>
      if inComment then skipBlanks (c ≠ '\n') rest
      else if c = '#' then skipBlanks true rest
      else if Text.isBlank c then skipBlanks false rest
      else c :: rest

def next (scope : Scope) (cs : List Char) : List Char :=
  if scope.spaced then skipBlanks false cs else cs

def ahead? (scope : Scope) (cs : List Char) : Option Char :=
  if scope.spaced then
    match cs.dropWhile Text.isBlank with
    | '#' :: rest => (rest.dropWhile Text.isBlank).head?
    | rest => rest.head?
  else cs.head?

def set (scope : Scope) (flags : List Char) : Scope :=
  let on := flags.takeWhile (· ≠ '-')
  { spaced := if flags.contains 'x' then on.contains 'x' else scope.spaced
    unicode := if flags.contains 'u' then on.contains 'u' else scope.unicode }

end Scope

-- What one part stands for: a character, a class of characters, a place between characters, or a place at
-- the edge of a word, where what counts as a word depends on all scripts.
inductive Part where
  | character (code : Nat)
  | kind
  | place
  | edge
  deriving DecidableEq, Repr

def digits? (scope : Scope) : Nat → Nat → List Char → Option (Nat × List Char)
  | 0, value, cs => some (value, cs)
  | _ + 1, _, [] => none
  | count + 1, value, c :: rest =>
      (Text.hexValue? c).bind fun digit =>
        digits? scope count (value * 16 + digit) (scope.next rest)

def numbered? (scope : Scope) (count : Nat) (cs : List Char) : Option (Part × List Char) :=
  match digits? scope count 0 (scope.next cs) with
  | some (code, rest) =>
      if code.isValidChar ∧ (scope.unicode ∨ count ≠ 2 ∨ code < 128) then
        some (.character code, rest)
      else none
  | none => none

def category? (scope : Scope) (cs : List Char) : Option (Part × List Char) :=
  match scope.next cs with
  | c :: rest =>
      if scope.unicode && ['c', 'l', 'm', 'n', 'p', 's', 'z'].contains c.toLower then
        some (.kind, scope.next rest)
      else none
  | [] => none

def control? : Char → Option Nat
  | 'a' => some 7
  | 't' => some 9
  | 'n' => some 10
  | 'v' => some 11
  | 'f' => some 12
  | 'r' => some 13
  | _ => none

def escape? (scope : Scope) : List Char → Option (Part × List Char)
  | [] => none
  | 'x' :: rest => numbered? scope 2 rest
  | 'u' :: rest => numbered? scope 4 rest
  | 'U' :: rest => numbered? scope 8 rest
  | c :: rest =>
      if c = 'p' || c = 'P' then category? scope rest
      else if ['d', 's', 'w'].contains c then some (.kind, rest)
      else if ['D', 'S', 'W'].contains c then if scope.unicode then some (.kind, rest) else none
      else if c = 'A' || c = 'z' then some (.place, rest)
      else if ['b', 'B', '<', '>'].contains c then
        some (if scope.unicode then .edge else .place, rest)
      else match control? c with
        | some code => some (.character code, rest)
        | none =>
            if c.isAlphanum || 128 ≤ c.toNat then none else some (.character c.toNat, rest)

end Delivery.Pattern
