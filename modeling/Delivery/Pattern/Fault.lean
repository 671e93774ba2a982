import Delivery.Pattern.Bracket
import Delivery.Text.Alphanumeric
set_option autoImplicit false

namespace Delivery.Pattern

inductive Fault where
  | malformed
  | wordEdge
  deriving DecidableEq, Repr

def Fault.message : Fault → String
  | .malformed => "error building NFA"
  | .wordEdge =>
      "unsupported regex feature for DFAs: cannot build DFAs for regexes with Unicode word " ++
        "boundaries; switch to ASCII word boundaries, or heuristically enable Unicode word " ++
        "boundaries or use a different regex engine"

structure Level where
  scope : Scope := {}
  alternatives : Option Nat := none
  parts : Nest := {}
  repeatable : Bool := false
  deriving DecidableEq, Repr, Inhabited

namespace Level

def depth (level : Level) : Nat :=
  match level.alternatives with
  | none => level.parts.depth
  | some alternatives => max alternatives level.parts.depth + 1

def pass (level : Level) (depth : Nat) : Level :=
  { level with parts := level.parts.add depth, repeatable := true }

def split (level : Level) : Level :=
  { level with
    alternatives := some (max (level.alternatives.getD 0) level.parts.depth)
    parts := {}
    repeatable := false }

def flag (level : Level) (scope : Scope) : Level :=
  { level with scope := scope, parts := level.parts.add 0, repeatable := false }

def repeat? (level : Level) : Option Level :=
  if level.repeatable then some { level with parts := level.parts.wrapLast } else none

end Level

structure Progress where
  level : Level := {}
  outer : List Level := []
  names : List (List Char) := []
  hasEdge : Bool := false
  deriving DecidableEq, Repr, Inhabited

namespace Progress

def enter (progress : Progress) (scope : Scope) : Progress :=
  { progress with level := { scope := scope }, outer := progress.level :: progress.outer }

def leave? (progress : Progress) : Option Progress :=
  match progress.outer with
  | [] => none
  | level :: outer =>
      some { progress with level := level.pass (progress.level.depth + 1), outer := outer }

def pass (progress : Progress) (depth : Nat) : Progress :=
  { progress with level := progress.level.pass depth }

def passPart (progress : Progress) (part : Part) : Progress :=
  { progress.pass 0 with hasEdge := progress.hasEdge || part = .edge }

def isComplete (progress : Progress) : Bool :=
  progress.outer.isEmpty && progress.level.depth ≤ maxDepth

end Progress

def isGroupName : List Char → Bool
  | [] => false
  | first :: rest =>
      (first = '_' || Text.isLetter first) &&
        rest.all fun c => ['_', '.', '[', ']'].contains c || Text.isAlphanumeric c

def areFlags (flags : List Char) : Bool :=
  flags.all ['i', 'm', 's', 'U', 'u', 'R', 'x', '-'].contains &&
    flags.Nodup && flags.getLast? ≠ some '-'

def namedGroup? (progress : Progress) (cs : List Char) : Option (Progress × List Char) :=
  let name := cs.takeWhile (· ≠ '>')
  match cs.drop name.length with
  | [] => none
  | _ :: rest =>
      if isGroupName name && ¬ progress.names.contains name then
        let inside := progress.enter progress.level.scope
        some ({ inside with names := name :: inside.names }, rest)
      else none

def flagged? (progress : Progress) (cs : List Char) : Option (Progress × List Char) :=
  let flags := cs.takeWhile fun c => c ≠ ':' ∧ c ≠ ')'
  let scope := progress.level.scope.set flags
  if areFlags flags then
    match cs.drop flags.length with
    | ':' :: rest => some (progress.enter scope, rest)
    | ')' :: rest =>
        if flags.isEmpty then none
        else some ({ progress with level := progress.level.flag scope }, rest)
    | _ => none
  else none

def group? (progress : Progress) (cs : List Char) : Option (Progress × List Char) :=
  match progress.level.scope.next cs with
  | '?' :: 'P' :: '<' :: rest => namedGroup? progress rest
  | '?' :: '<' :: rest => namedGroup? progress rest
  | '?' :: rest => flagged? progress rest
  | rest => some (progress.enter progress.level.scope, rest)

def afterRepetition (cs : List Char) : List Char :=
  if cs.head? = some '?' then cs.tail else cs

def step? (progress : Progress) : List Char → Option (Progress × List Char)
  | [] => none
  | '(' :: rest => group? progress rest
  | ')' :: rest => progress.leave?.map fun next => (next, rest)
  | '|' :: rest => some ({ progress with level := progress.level.split }, rest)
  | '[' :: rest =>
      (set? progress.level.scope rest).map fun (depth, after) => (progress.pass depth, after)
  | '\\' :: rest =>
      (escape? progress.level.scope rest).map fun (part, after) => (progress.passPart part, after)
  | '.' :: rest => if progress.level.scope.unicode then some (progress.pass 0, rest) else none
  | '{' :: _ => none
  | c :: rest =>
      if ['?', '*', '+'].contains c then
        progress.level.repeat?.map fun level =>
          ({ progress with level := level }, afterRepetition rest)
      else some (progress.pass 0, rest)

def run? : Nat → Progress → List Char → Option Progress
  | 0, _, _ => none
  | fuel + 1, progress, cs =>
      match progress.level.scope.next cs with
      | [] => if progress.isComplete then some progress else none
      | rest => (step? progress rest).bind fun (next, rest) => run? fuel next rest

def fault? (cs : List Char) : Option Fault :=
  match run? (cs.length + 1) {} cs with
  | none => some .malformed
  | some progress => if progress.hasEdge then some .wordEdge else none

end Delivery.Pattern
