import Delivery.Instant.Basic
import Delivery.Text.Blank
import Delivery.Text.Decimal
set_option autoImplicit false

namespace Delivery.Instant

inductive Fault where
  | outOfRange
  | impossible
  | invalid
  | tooShort
  | tooLong
  deriving DecidableEq, Repr

def Fault.message : Fault → String
  | .outOfRange => "input is out of range"
  | .impossible => "no possible date and time matching input"
  | .invalid => "input contains invalid characters"
  | .tooShort => "premature end of input"
  | .tooLong => "trailing input"

namespace Rfc3339

abbrev Reader (α : Type) := List Char → Except Fault (α × List Char)

def maxWord : Nat := 9223372036854775807

def digits (value : Nat) (needed : Bool) : Nat → Reader Nat
  | 0, cs => .ok (value, cs)
  | width + 1, cs =>
      match cs with
      | [] => if needed then .error .tooShort else .ok (value, [])
      | c :: rest =>
          if c.isDigit then
            let next := value * 10 + (c.toNat - 48)
            if next ≤ maxWord then digits next false width rest else .error .outOfRange
          else if needed then .error .invalid
          else .ok (value, cs)

def number (width : Nat) : Reader Nat := fun cs =>
  digits 0 true width (Text.trimLeft cs)

def year : Reader Int := fun cs => do
  let (value, rest) ← match Text.trimLeft cs with
    | '-' :: rest => do
        let (n, rest) ← digits 0 true rest.length.succ rest
        pure (-(n : Int), rest)
    | '+' :: rest => do
        let (n, rest) ← digits 0 true rest.length.succ rest
        pure ((n : Int), rest)
    | rest => do
        let (n, rest) ← digits 0 true 4 rest
        pure ((n : Int), rest)
  if -2147483648 ≤ value ∧ value ≤ 2147483647 then .ok (value, rest) else .error .outOfRange

def within (low high : Nat) (width : Nat) : Reader Nat := fun cs => do
  let (value, rest) ← number width cs
  if low ≤ value ∧ value ≤ high then .ok (value, rest) else .error .outOfRange

def mark (c : Char) : Reader Unit := fun cs =>
  match Text.trimLeft cs with
  | [] => .error .tooShort
  | d :: rest => if d = c then .ok ((), rest) else .error .invalid

def separator : Reader Unit
  | [] => .error .tooShort
  | c :: rest => if c = 'T' ∨ c = 't' ∨ c = ' ' then .ok ((), rest) else .error .invalid

def fraction : Reader Nat
  | '.' :: cs => do
      let (value, rest) ← digits 0 true 9 cs
      let scaled := value * Nat.pow 10 (9 - (cs.length - rest.length))
      .ok (scaled, rest.dropWhile Char.isDigit)
  | cs => .ok (0, cs)

def byteLength (cs : List Char) : Nat :=
  cs.foldl (fun size c => size + c.utf8Size) 0

def offsetHours : Reader Int := fun cs =>
  if byteLength cs < 2 then .error .tooShort
  else match cs with
    | a :: b :: rest =>
        if a.isDigit && b.isDigit then
          .ok ((((a.toNat - 48) * 10 + (b.toNat - 48) : Nat) : Int), rest)
        else .error .invalid
    | _ => .error .invalid

def offsetMinutes : Reader Int := fun cs =>
  if byteLength cs < 2 then .error .tooShort
  else match cs with
    | a :: b :: rest =>
        if a.isDigit && b.isDigit then
          if a.toNat < 54 then .ok ((((a.toNat - 48) * 10 + (b.toNat - 48) : Nat) : Int), rest)
          else .error .outOfRange
        else .error .invalid
    | _ => .error .invalid

def signedOffset (sign : Int) : Reader Int := fun cs => do
  let (hours, rest) ← offsetHours cs
  let (minutes, rest) ← offsetMinutes (rest.dropWhile fun c => c = ':' || Text.isBlank c)
  .ok (sign * (hours * 3600 + minutes * 60), rest)

def offset : Reader Int := fun cs =>
  match cs with
  | [] => .error .tooShort
  | c :: rest =>
      match cs.take 3 |>.map Char.toUpper with
      | ['U', 'T', 'C'] => .ok (0, cs.drop 3)
      | _ =>
          if c = 'Z' ∨ c = 'z' then .ok (0, rest)
          else if c = '+' then signedOffset 1 rest
          else if c = '-' ∨ c = '−' then signedOffset (-1) rest
          else .error .invalid

def firstDay : Int := Date.toDays ⟨-262143, 1, 1⟩

def lastDay : Int := Date.toDays ⟨262142, 12, 31⟩

def assemble (date : Date) (hour minute second nanos : Nat) (offset : Int) : Except Fault Instant :=
  if ¬ date.Valid ∨ date.toDays < firstDay ∨ lastDay < date.toDays then .error .outOfRange
  else if offset ≤ -86400 ∨ 86400 ≤ offset then .error .outOfRange
  else
    let (second, nanos) := if second = 60 then (59, nanos + 1000000000) else (second, nanos)
    let seconds : Int := date.toDays * 86400 + hour * 3600 + minute * 60 + second - offset
    if seconds / 86400 < firstDay ∨ lastDay < seconds / 86400 then .error .impossible
    else if valid : nanos < 1000000000 ∨ nanos < 2000000000 ∧ seconds % 60 = 59 then
      .ok ⟨seconds, nanos, valid⟩
    else .error .outOfRange

def readChars (cs : List Char) : Except Fault Instant := do
  let (year, cs) ← year cs
  let (_, cs) ← mark '-' cs
  let (month, cs) ← within 1 12 2 cs
  let (_, cs) ← mark '-' cs
  let (day, cs) ← within 1 31 2 cs
  let (_, cs) ← separator cs
  let (hour, cs) ← within 0 23 2 cs
  let (_, cs) ← mark ':' cs
  let (minute, cs) ← within 0 59 2 cs
  let (_, cs) ← mark ':' cs
  let (second, cs) ← within 0 60 2 cs
  let (nanos, cs) ← fraction cs
  let (offset, cs) ← offset (Text.trimLeft cs)
  if (Text.trimLeft cs).isEmpty then assemble ⟨year, month, day⟩ hour minute second nanos offset
  else .error .tooLong

def yearText (year : Int) : List Char :=
  if 0 ≤ year ∧ year ≤ 9999 then Text.Decimal.padded 4 year.toNat
  else (if year < 0 then '-' else '+') :: Text.Decimal.padded 4 year.natAbs

def fractionText (nanos : Nat) : List Char :=
  if nanos = 0 then []
  else if nanos % 1000000 = 0 then '.' :: Text.Decimal.padded 3 (nanos / 1000000)
  else if nanos % 1000 = 0 then '.' :: Text.Decimal.padded 6 (nanos / 1000)
  else '.' :: Text.Decimal.padded 9 nanos

def writeChars (instant : Instant) : List Char :=
  let date := Date.ofDays (instant.seconds / 86400)
  let clock := (instant.seconds % 86400).toNat
  let isLeap := 1000000000 ≤ instant.nanos
  let second := clock % 60 + (if isLeap then 1 else 0)
  let nanos := if isLeap then instant.nanos - 1000000000 else instant.nanos
  yearText date.year ++ '-' :: Text.Decimal.padded 2 date.month ++
    '-' :: Text.Decimal.padded 2 date.day ++
    'T' :: Text.Decimal.padded 2 (clock / 3600) ++
    ':' :: Text.Decimal.padded 2 (clock / 60 % 60) ++
    ':' :: Text.Decimal.padded 2 second ++ fractionText nanos ++ ['Z']

end Rfc3339

def read (text : String) : Except Fault Instant :=
  Rfc3339.readChars text.toList

def write (instant : Instant) : String :=
  String.ofList (Rfc3339.writeChars instant)

end Delivery.Instant
