import Delivery.Pattern.Fault
import Delivery.Text.Blank
import Delivery.Text.Decimal
import Delivery.Text.Utf8
set_option autoImplicit false

namespace Delivery.LogFilter

inductive Fault where
  | invalid (reason : String)
  | torn
  deriving DecidableEq, Repr

def Fault.directive : Fault :=
  .invalid "invalid filter directive"

def Fault.level : Fault :=
  .invalid ("error parsing level filter: expected one of \"off\", \"error\", \"warn\", " ++
    "\"info\", \"debug\", \"trace\", or a number 0-5")

def Fault.field (fault : Pattern.Fault) : Fault :=
  .invalid ("invalid field filter: " ++ fault.message)

def levels : List String := ["off", "error", "warn", "info", "debug", "trace"]

def isLevel (cs : List Char) : Bool :=
  let lowered := String.ofList (cs.map Char.toLower)
  cs.isEmpty || levels.contains lowered || (Text.Decimal.uint32? cs).any (· ≤ 5)

def startsTarget : List Char → Bool
  | [] => false
  | c :: _ => Text.isAlphanumeric c || c = '-' || c = ':' || c = '_'

def fieldFault? (field : List Char) : Option Fault :=
  match Text.pieces '=' field with
  | _ :: value :: _ =>
      if Text.Decimal.isReal value then none else (Pattern.fault? value).map Fault.field
  | _ => if field.isEmpty then some .directive else none

-- A directive. Its parts are told apart without the blanks around it, but a part is taken, at the place
-- that was found, from the directive as it is; so blanks leave no level that can be read. Places are
-- counted in bytes, and blanks of several bytes can move one into a character.
structure Directive where
  text : List Char
  trimmed : List Char
  deriving DecidableEq, Repr

namespace Directive

def ofChars (text : List Char) : Directive :=
  { text := text, trimmed := Text.trimChars text }

def place (directive : Directive) (rest : List Char) : Nat :=
  Text.Utf8.size directive.trimmed - Text.Utf8.size rest

def part (directive : Directive) (start stop : List Char) : Except Fault (List Char) :=
  match Text.Utf8.slice? (directive.place start) (directive.place stop) directive.text with
  | some found => .ok found
  | none => .error .torn

def lastPart (directive : Directive) (start : List Char) : Except Fault (List Char) :=
  match Text.Utf8.splitAt? (directive.place start) directive.text with
  | some (_, found) => .ok found
  | none => .error .torn

def afterFields (directive : Directive) (cs : List Char) : Except Fault (List Char) :=
  match cs.dropWhile (· ≠ '}') with
  | [] => .error .directive
  | brace :: rest => do
      let field ← directive.part cs (brace :: rest)
      match fieldFault? field, rest with
      | some fault, _ => .error fault
      | none, ']' :: after => .ok after
      | none, _ => .error .directive

def afterSpan (directive : Directive) (cs : List Char) : Except Fault (List Char) :=
  match cs.dropWhile fun c => c ≠ ']' ∧ c ≠ '{' with
  | [] => .error .directive
  | sign :: rest => do
      let _ ← directive.part cs (sign :: rest)
      if sign = '{' then directive.afterFields rest else .ok rest

def afterTarget (directive : Directive) : Except Fault (List Char) :=
  let cs := directive.trimmed
  if cs.head? = some '[' then directive.afterSpan cs.tail
  else if startsTarget cs then
    match cs.dropWhile fun c => c ≠ '=' ∧ c ≠ '[' with
    | [] => .ok []
    | sign :: rest => do
        let _ ← directive.part cs (sign :: rest)
        if sign = '[' then directive.afterSpan rest else .ok (sign :: rest)
  else .error .directive

def check (directive : Directive) : Except Fault Unit := do
  match ← directive.afterTarget with
  | [] => .ok ()
  | '=' :: rest =>
      let level ← directive.lastPart rest
      if isLevel level then .ok () else .error .level
  | _ => .error .directive

end Directive

def check (filter : String) : Except Fault Unit :=
  let directives := (Text.pieces ',' filter.toList).filter fun piece => ¬ piece.isEmpty
  directives.forM fun piece => (Directive.ofChars piece).check

end Delivery.LogFilter
