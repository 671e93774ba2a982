import Delivery.Json.Fault
import Delivery.Text.Hexadecimal
set_option autoImplicit false

namespace Delivery.Json.Scan

def isSpace (c : Char) : Bool :=
  c = ' ' || c = '\n' || c = '\t' || c = '\r'

def skipSpace (cs : List Char) : List Char :=
  cs.dropWhile isSpace

def word : List Char → List Char → Except Fault (List Char)
  | [], cs => .ok cs
  | _ :: _, [] => Fault.here .endInValue []
  | letter :: letters, c :: rest =>
      if c = letter then word letters rest else Fault.next .expectedWord (c :: rest)

def fourHex : Reader Nat := fun cs =>
  match cs with
  | a :: b :: c :: d :: rest =>
      match Text.hexValue? a, Text.hexValue? b, Text.hexValue? c, Text.hexValue? d with
      | some a, some b, some c, some d => .ok (((a * 16 + b) * 16 + c) * 16 + d, rest)
      | _, _, _, _ => .error { error := .syntactic .invalidEscape, rest := cs, ahead := 4 }
  | _ =>
      if (utf8Bytes cs).length < 4 then Fault.here .endInString []
      else .error { error := .syntactic .invalidEscape, rest := cs, ahead := 4 }

def isHighSurrogate (code : Nat) : Bool := 0xD800 ≤ code && code ≤ 0xDBFF

def isLowSurrogate (code : Nat) : Bool := 0xDC00 ≤ code && code ≤ 0xDFFF

def lowSurrogate (high : Nat) : Reader Char := fun cs =>
  match cs with
  | [] => Fault.here .endInString []
  | '\\' :: 'u' :: rest => do
      let (low, after) ← fourHex rest
      if isLowSurrogate low then
        .ok (Char.ofNat ((high - 0xD800) * 0x400 + (low - 0xDC00) + 0x10000), after)
      else Fault.here .loneSurrogate after
  | ['\\'] => Fault.here .endInString []
  | '\\' :: rest => Fault.next .unpairedSurrogate rest
  | _ => Fault.next .unpairedSurrogate cs

def escapeLetter? (c : Char) : Option Char :=
  if c = '"' ∨ c = '\\' ∨ c = '/' then some c
  else if c = 'b' then some '\x08'
  else if c = 'f' then some '\x0c'
  else if c = 'n' then some '\n'
  else if c = 'r' then some '\r'
  else if c = 't' then some '\t'
  else none

def escape : Reader Char
  | [] => Fault.here .endInString []
  | 'u' :: rest => do
      let (code, after) ← fourHex rest
      if isLowSurrogate code then Fault.here .loneSurrogate after
      else if isHighSurrogate code then lowSurrogate code after
      else .ok (Char.ofNat code, after)
  | c :: rest =>
      match escapeLetter? c with
      | some plain => .ok (plain, rest)
      | none => Fault.next .invalidEscape (c :: rest)

def stringChars : Nat → Reader (List Char)
  | 0, cs => Fault.here .endInString cs
  | _ + 1, [] => Fault.here .endInString []
  | fuel + 1, c :: rest =>
      if c = '"' then .ok ([], rest)
      else if c = '\\' then do
        let (plain, after) ← escape rest
        let (more, after) ← stringChars fuel after
        .ok (plain :: more, after)
      else if c.toNat < 32 then Fault.here .controlCharacter rest
      else do
        let (more, after) ← stringChars fuel rest
        .ok (c :: more, after)

def string : Reader String := fun cs => do
  let (chars, rest) ← stringChars (cs.length + 1) cs
  .ok (String.ofList chars, rest)

def maxSignificand : Nat := 18446744073709551615

def wordDigits (value count : Nat) : List Char → Nat × Nat × List Char
  | [] => (value, count, [])
  | c :: rest =>
      let next := value * 10 + (c.toNat - 48)
      if c.isDigit && next ≤ maxSignificand then wordDigits next (count + 1) rest
      else (value, count, c :: rest)

def startsWithDigit : List Char → Bool
  | [] => false
  | c :: _ => c.isDigit

def finishFloat (negative : Bool) (significand : Nat) (exponent : Int) : Reader Json := fun cs =>
  match Binary64.ofDecimal negative significand exponent with
  | some x => .ok (.float x, cs)
  | none => Fault.here .numberOutOfRange cs

def maxExponent : Nat := 2147483647

-- Digits of an exponent, up to the one that takes it beyond a 32-bit word; the flag says that there was
-- such a digit.
def exponentDigits (value : Nat) : List Char → Nat × Bool × List Char
  | [] => (value, false, [])
  | c :: rest =>
      if c.isDigit then
        let next := value * 10 + (c.toNat - 48)
        if next ≤ maxExponent then exponentDigits next rest else (next, true, rest)
      else (value, false, c :: rest)

def exponentPart (negative : Bool) (significand : Nat) (start : Int) : Reader Json := fun cs =>
  let (down, digits) := match cs with
    | '+' :: rest => (false, rest)
    | '-' :: rest => (true, rest)
    | _ => (false, cs)
  match digits with
  | [] => Fault.here .endInValue []
  | c :: rest =>
      if c.isDigit then
        let (exponent, tooLong, after) := exponentDigits (c.toNat - 48) rest
        if tooLong then
          if significand ≠ 0 ∧ ¬ down then Fault.here .numberOutOfRange after
          else .ok (.float (Binary64.zero negative), after.dropWhile Char.isDigit)
        else finishFloat negative significand (if down then start - exponent else start + exponent) after
      else Fault.next .invalidNumber digits

def exponentOrEnd (negative : Bool) (significand : Nat) (exponent : Int) : Reader Json
  | 'e' :: rest => exponentPart negative significand exponent rest
  | 'E' :: rest => exponentPart negative significand exponent rest
  | cs => finishFloat negative significand exponent cs

def fractionPart (negative : Bool) (significand : Nat) (start : Int) : Reader Json := fun cs =>
  let (value, count, rest) := wordDigits significand 0 cs
  if startsWithDigit rest then
    exponentOrEnd negative value (start - count) (rest.dropWhile Char.isDigit)
  else if count = 0 then
    match rest with
    | [] => Fault.next .endInValue []
    | _ => Fault.next .invalidNumber rest
  else exponentOrEnd negative value (start - count) rest

-- A negative number beyond the 64-bit words, and the negative zero, are floating-point numbers.
def wholeNumber (negative : Bool) (significand : Nat) : Reader Json := fun cs =>
  if negative then
    if significand = 0 ∨ 9223372036854775808 < significand then finishFloat true significand 0 cs
    else .ok (.int (-(significand : Int)), cs)
  else .ok (.int significand, cs)

def afterDigits (negative : Bool) (significand : Nat) : Reader Json
  | '.' :: rest => fractionPart negative significand 0 rest
  | 'e' :: rest => exponentPart negative significand 0 rest
  | 'E' :: rest => exponentPart negative significand 0 rest
  | cs => wholeNumber negative significand cs

def number (negative : Bool) : Reader Json
  | [] => Fault.here .endInValue []
  | c :: rest =>
      if c = '0' then
        if startsWithDigit rest then Fault.next .invalidNumber rest else afterDigits negative 0 rest
      else if c.isDigit then
        let (value, _, after) := wordDigits (c.toNat - 48) 0 rest
        if startsWithDigit after then
          let dropped := after.takeWhile Char.isDigit
          match after.dropWhile Char.isDigit with
          | '.' :: rest => fractionPart negative value dropped.length rest
          | rest => exponentOrEnd negative value dropped.length rest
        else afterDigits negative value after
      else Fault.next .invalidNumber (c :: rest)

end Delivery.Json.Scan
