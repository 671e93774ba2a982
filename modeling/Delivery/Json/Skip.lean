import Delivery.Json.Reader
set_option autoImplicit false

namespace Delivery.Json.Skip

inductive Frame where
  | array
  | object
  deriving DecidableEq, Repr

def escape : List Char → Except Fault (List Char)
  | [] => Fault.here .endInString []
  | 'u' :: rest => do
      let (_, after) ← Scan.fourHex rest
      .ok after
  | c :: rest =>
      match Scan.escapeLetter? c with
      | some _ => .ok rest
      | none => Fault.next .invalidEscape (c :: rest)

def stringChars : Nat → List Char → Except Fault (List Char)
  | 0, cs => Fault.here .endInString cs
  | _ + 1, [] => Fault.here .endInString []
  | fuel + 1, c :: rest =>
      if c = '"' then .ok rest
      else if c = '\\' then do stringChars fuel (← escape rest)
      else if c.toNat < 32 then Fault.here .controlCharacter (c :: rest)
      else stringChars fuel rest

def string (cs : List Char) : Except Fault (List Char) :=
  stringChars (cs.length + 1) cs

def exponentPart (cs : List Char) : Except Fault (List Char) :=
  let digits := match cs with
    | '+' :: rest => rest
    | '-' :: rest => rest
    | _ => cs
  match digits with
  | [] => Fault.here .invalidNumber []
  | c :: rest =>
      if c.isDigit then .ok (rest.dropWhile Char.isDigit) else Fault.next .invalidNumber (c :: rest)

def exponentOrEnd : List Char → Except Fault (List Char)
  | 'e' :: rest => exponentPart rest
  | 'E' :: rest => exponentPart rest
  | cs => .ok cs

def afterDigits : List Char → Except Fault (List Char)
  | '.' :: rest =>
      if Scan.startsWithDigit rest then exponentOrEnd (rest.dropWhile Char.isDigit)
      else Fault.next .invalidNumber rest
  | cs => exponentOrEnd cs

def number : List Char → Except Fault (List Char)
  | [] => Fault.here .invalidNumber []
  | c :: rest =>
      if c = '0' then
        if Scan.startsWithDigit rest then Fault.next .invalidNumber rest else afterDigits rest
      else if c.isDigit then afterDigits (rest.dropWhile Char.isDigit)
      else Fault.next .invalidNumber (c :: rest)

def key (cs : List Char) : Except Fault (List Char) :=
  match Scan.skipSpace cs with
  | [] => Fault.next .endInObject []
  | '"' :: rest => do colon (← string rest)
  | rest => Fault.next .keyNotString rest

inductive Due where
  | value
  | follower (afterItem : Bool)

def intoItem (frame : Frame) (cs : List Char) : Except Fault (List Char) :=
  match frame with
  | .array => .ok cs
  | .object => key cs

def run : Nat → Due → List Frame → List Char → Except Fault (List Char)
  | 0, _, _, cs => Fault.here .endInValue cs
  | fuel + 1, .value, frames, cs =>
      match Scan.skipSpace cs with
      | [] => Fault.next .endInValue []
      | 'n' :: rest => do run fuel (.follower true) frames (← Scan.word ['u', 'l', 'l'] rest)
      | 't' :: rest => do run fuel (.follower true) frames (← Scan.word ['r', 'u', 'e'] rest)
      | 'f' :: rest => do run fuel (.follower true) frames (← Scan.word ['a', 'l', 's', 'e'] rest)
      | '"' :: rest => do run fuel (.follower true) frames (← string rest)
      | '-' :: rest => do run fuel (.follower true) frames (← number rest)
      | '[' :: rest => run fuel (.follower false) (.array :: frames) rest
      | '{' :: rest => run fuel (.follower false) (.object :: frames) rest
      | c :: rest =>
          if c.isDigit then do run fuel (.follower true) frames (← number (c :: rest))
          else Fault.next .expectedValue (c :: rest)
  | _ + 1, .follower _, [], cs => .ok cs
  | fuel + 1, .follower afterItem, frame :: outer, cs =>
      match Scan.skipSpace cs with
      | [] => Fault.next (match frame with | .array => .endInArray | .object => .endInObject) []
      | c :: rest =>
          if afterItem && c = ',' then do
            run fuel .value (frame :: outer) (← intoItem frame rest)
          else if c = (match frame with | .array => ']' | .object => '}') then
            run fuel (.follower true) outer rest
          else if afterItem then
            Fault.next
              (match frame with | .array => .expectedCommaOrBracket | .object => .expectedCommaOrBrace)
              (c :: rest)
          else do
            run fuel .value (frame :: outer) (← intoItem frame (c :: rest))

def value (cs : List Char) : Except Fault (List Char) :=
  run (2 * cs.length + 2) .value [] cs

end Delivery.Json.Skip
