import Delivery.Pattern.Escape
import Delivery.Pattern.Nest
set_option autoImplicit false

namespace Delivery.Pattern

structure Bracket where
  opening : Bool := true
  left : Option Nat := none
  members : Nest := {}
  deriving DecidableEq, Repr, Inhabited

namespace Bracket

def inner (bracket : Bracket) : Nat :=
  match bracket.left with
  | none => bracket.members.depth
  | some left => max left bracket.members.depth + 1

def depth (bracket : Bracket) : Nat :=
  bracket.inner + 1

def combine (bracket : Bracket) : Bracket :=
  { bracket with left := some bracket.inner, members := {} }

def add (bracket : Bracket) (depth : Nat) : Bracket :=
  { bracket with members := bracket.members.add depth }

def start? (scope : Scope) (cs : List Char) : Option (Bracket × List Char) :=
  let first := scope.next cs
  let negated := first.head? = some '^'
  let inside := if negated then scope.next first.tail else first
  if negated && ¬ scope.unicode then none
  else match inside with
    | ']' :: rest => some ({ opening := false, members := Nest.add {} 0 }, rest)
    | _ => some ({}, inside)

end Bracket

def classNames : List String :=
  ["alnum", "alpha", "ascii", "blank", "cntrl", "digit", "graph", "lower", "print", "punct",
    "space", "upper", "word", "xdigit"]

def namedClass? : List Char → Option (Bool × List Char)
  | ':' :: rest =>
      let negated := rest.head? = some '^'
      let inside := if negated then rest.tail else rest
      let name := inside.takeWhile (· ≠ ':')
      match inside.drop name.length with
      | ':' :: ']' :: after =>
          if classNames.contains (String.ofList name) then some (negated, after) else none
      | _ => none
  | _ => none

def item? (scope : Scope) : List Char → Option (Part × List Char)
  | [] => none
  | '\\' :: rest => escape? scope rest
  | c :: rest => some (.character c.toNat, rest)

def isMember (scope : Scope) : Part → Bool
  | .character code => scope.unicode || code < 128
  | .kind => true
  | .place => false
  | .edge => false

def isRange (scope : Scope) : Part → Part → Bool
  | .character first, .character last =>
      first ≤ last && isMember scope (.character first) && isMember scope (.character last)
  | _, _ => false

def members? (scope : Scope) (cs : List Char) : Option (List Char) :=
  (item? scope cs).bind fun (first, after) =>
    let rest := scope.next after
    match rest with
    | '-' :: more =>
        if scope.ahead? more = some ']' ∨ scope.ahead? more = some '-' then
          if isMember scope first then some rest else none
        else
          (item? scope (scope.next more)).bind fun (last, rest) =>
            if isRange scope first last then some rest else none
    | _ => if isMember scope first then some rest else none

def brackets? (scope : Scope) : Nat → List Bracket → List Char → Option (Nat × List Char)
  | 0, _, _ => none
  | _ + 1, [], _ => none
  | fuel + 1, bracket :: outer, cs =>
      let cs := scope.next cs
      if bracket.opening && cs.head? = some '-' then
        brackets? scope fuel (bracket.add 0 :: outer) cs.tail
      else
        let bracket := { bracket with opening := false }
        match cs with
        | [] => none
        | ']' :: rest =>
            match outer with
            | [] => some (bracket.depth, rest)
            | around :: outer => brackets? scope fuel (around.add bracket.depth :: outer) rest
        | '[' :: rest =>
            match namedClass? rest with
            | some (negated, after) =>
                if negated && ¬ scope.unicode then none
                else brackets? scope fuel (bracket.add 0 :: outer) after
            | none =>
                (Bracket.start? scope rest).bind fun (inner, inside) =>
                  brackets? scope fuel (inner :: bracket :: outer) inside
        | '&' :: '&' :: rest => brackets? scope fuel (bracket.combine :: outer) rest
        | '-' :: '-' :: rest => brackets? scope fuel (bracket.combine :: outer) rest
        | '~' :: '~' :: rest => brackets? scope fuel (bracket.combine :: outer) rest
        | cs =>
            (members? scope cs).bind fun rest => brackets? scope fuel (bracket.add 0 :: outer) rest

-- The depth of a set, whose opening bracket was passed, and what follows it. Each step passes a character,
-- so the length bounds their number.
def set? (scope : Scope) (cs : List Char) : Option (Nat × List Char) :=
  (Bracket.start? scope cs).bind fun (bracket, inside) =>
    brackets? scope (cs.length + 1) [bracket] inside

end Delivery.Pattern
