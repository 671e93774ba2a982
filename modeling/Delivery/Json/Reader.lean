import Delivery.Json.Scanner
set_option autoImplicit false

namespace Delivery.Json

inductive Step where
  | closed (rest : List Char)
  | item (rest : List Char)

def nextItem (first : Bool) (cs : List Char) : Except Fault Step :=
  match Scan.skipSpace cs with
  | [] => Fault.next .endInArray []
  | c :: rest =>
      if c = ']' then .ok (.closed rest)
      else if first then .ok (.item (c :: rest))
      else if c = ',' then
        match Scan.skipSpace rest with
        | [] => Fault.next .endInValue []
        | ']' :: after => Fault.next .trailingComma (']' :: after)
        | after => .ok (.item after)
      else Fault.next .expectedCommaOrBracket (c :: rest)

def nextKey (first : Bool) (cs : List Char) : Except Fault Step :=
  match Scan.skipSpace cs with
  | [] => Fault.next .endInObject []
  | c :: rest =>
      if c = '}' then .ok (.closed rest)
      else if first then
        if c = '"' then .ok (.item rest) else Fault.next .keyNotString (c :: rest)
      else if c = ',' then
        match Scan.skipSpace rest with
        | [] => Fault.next .endInValue []
        | '"' :: after => .ok (.item after)
        | '}' :: after => Fault.next .trailingComma ('}' :: after)
        | after => Fault.next .keyNotString after
      else Fault.next .expectedCommaOrBrace (c :: rest)

def colon (cs : List Char) : Except Fault (List Char) :=
  match Scan.skipSpace cs with
  | [] => Fault.next .endInObject []
  | ':' :: rest => .ok rest
  | rest => Fault.next .expectedColon rest

def readItems {α : Type} (item : Reader α) : Nat → Bool → Reader (List α)
  | 0, _, cs => Fault.here .endInArray cs
  | fuel + 1, first, cs => do
      match ← nextItem first cs with
      | .closed rest => .ok ([], rest)
      | .item rest =>
          let (value, rest) ← item rest
          let (values, rest) ← readItems item fuel false rest
          .ok (value :: values, rest)

def readMembers (value : Reader Json) :
    Nat → Bool → List (String × Json) → Reader (List (String × Json))
  | 0, _, _, cs => Fault.here .endInObject cs
  | fuel + 1, first, before, cs => do
      match ← nextKey first cs with
      | .closed rest => .ok (before, rest)
      | .item rest =>
          let (key, rest) ← Scan.string rest
          let rest ← colon rest
          let (member, rest) ← value rest
          readMembers value fuel false (Entries.insert key member before) rest

def readValue : Nat → Reader Json
  | depth, cs =>
      match Scan.skipSpace cs with
      | [] => Fault.next .endInValue []
      | 'n' :: rest => do .ok (.null, ← Scan.word ['u', 'l', 'l'] rest)
      | 't' :: rest => do .ok (.bool true, ← Scan.word ['r', 'u', 'e'] rest)
      | 'f' :: rest => do .ok (.bool false, ← Scan.word ['a', 'l', 's', 'e'] rest)
      | '"' :: rest => do
          let (text, rest) ← Scan.string rest
          .ok (.string text, rest)
      | '[' :: rest =>
          match depth with
          | 0 => Fault.next .tooDeep ('[' :: rest)
          | depth + 1 => do
              let (items, rest) ← readItems (readValue depth) (rest.length + 1) true rest
              .ok (.array items, rest)
      | '{' :: rest =>
          match depth with
          | 0 => Fault.next .tooDeep ('{' :: rest)
          | depth + 1 => do
              let (members, rest) ← readMembers (readValue depth) (rest.length + 1) true [] rest
              .ok (.object members, rest)
      | '-' :: rest => Scan.number true rest
      | c :: rest =>
          if c.isDigit then Scan.number false (c :: rest) else Fault.next .expectedValue (c :: rest)

def depthLimit : Nat := 127

def whole {α : Type} (reader : Reader α) (text : String) : Except DecodeError α :=
  let cs := text.toList
  let outcome : Except Fault α := do
    let (value, rest) ← reader cs
    match Scan.skipSpace rest with
    | [] => .ok value
    | after => Fault.next .trailingCharacters after
  match outcome with
  | .ok value => .ok value
  | .error fault => .error (fault.locate cs)

def parse (text : String) : Except DecodeError Json :=
  whole (readValue depthLimit) text

end Delivery.Json
