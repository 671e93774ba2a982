import Delivery.Json.Skip
set_option autoImplicit false

namespace Delivery.Json

inductive Schema where
  | bool
  | string
  | list (item : Schema)
  | record (name : String) (fields : List (String × Schema))

namespace Schema

-- Something else stands where a value is wanted. The place of a scalar is after it, that of an array or an
-- object before it.
def mismatch {α : Type} (wanted : Wanted) (cs : List Char) : Except Fault α :=
  match cs with
  | '[' :: rest => .error { error := .wrongType .array wanted, rest := '[' :: rest }
  | '{' :: rest => .error { error := .wrongType .object wanted, rest := '{' :: rest }
  | _ => do
      let (value, rest) ← readValue 0 cs
      .error { error := .wrongType value.found wanted, rest }

def readBool : Reader Json := fun cs =>
  match Scan.skipSpace cs with
  | 't' :: rest => do .ok (.bool true, ← Scan.word ['r', 'u', 'e'] rest)
  | 'f' :: rest => do .ok (.bool false, ← Scan.word ['a', 'l', 's', 'e'] rest)
  | rest => mismatch .boolean rest

def readString : Reader Json := fun cs =>
  match Scan.skipSpace cs with
  | '"' :: rest => do
      let (text, rest) ← Scan.string rest
      .ok (.string text, rest)
  | rest => mismatch .string rest

def readList (item : Reader Json) : Reader Json := fun cs =>
  match Scan.skipSpace cs with
  | '[' :: rest => do
      let (items, rest) ← readItems item (rest.length + 1) true rest
      .ok (.array items, rest)
  | rest => mismatch .array rest

-- The fault of a field that is given again, after its key. It is placed before what follows the key, or
-- after the closing brace if that is what follows.
def duplicate {α : Type} (name : String) (cs : List Char) : Except Fault α :=
  match Scan.skipSpace cs with
  | '}' :: rest => .error { error := .duplicateField name, rest }
  | rest => .error { error := .duplicateField name, rest }

def readerFor? (key : String) : List (String × Reader Json) → Option (Reader Json)
  | [] => none
  | (name, reader) :: rest => if name = key then some reader else readerFor? key rest

def readNamed (fields : List (String × Reader Json)) :
    Nat → Bool → List (String × Json) → Reader (List (String × Json))
  | 0, _, _, cs => Fault.here .endInObject cs
  | fuel + 1, first, before, cs => do
      match ← nextKey first cs with
      | .closed rest => .ok (before, rest)
      | .item rest =>
          let (key, rest) ← Scan.string rest
          match readerFor? key fields with
          | none =>
              let rest ← Skip.value (← colon rest)
              readNamed fields fuel false before rest
          | some reader =>
              if Entries.contains key before then duplicate key rest
              else
                let (value, rest) ← reader (← colon rest)
                readNamed fields fuel false (Entries.insert key value before) rest

def endOfItems (cs : List Char) : Except Fault (List Char) :=
  match Scan.skipSpace cs with
  | [] => Fault.next .endInArray []
  | ']' :: rest => .ok rest
  | ',' :: rest =>
      match Scan.skipSpace rest with
      | ']' :: after => Fault.next .trailingComma (']' :: after)
      | after => Fault.next .trailingCharacters after
  | rest => Fault.next .trailingCharacters rest

def readPositional :
    List (String × Reader Json) → Bool → List (String × Json) → Reader (List (String × Json))
  | [], _, before, cs => do .ok (before, ← endOfItems cs)
  | (name, reader) :: fields, first, before, cs => do
      match ← nextItem first cs with
      | .closed rest => .ok (before, rest)
      | .item rest =>
          let (value, rest) ← reader rest
          readPositional fields false (Entries.insert name value before) rest

def readRecord (name : String) (fields : List (String × Reader Json)) : Reader Json := fun cs =>
  match Scan.skipSpace cs with
  | '{' :: rest => do
      let (members, rest) ← readNamed fields (rest.length + 1) true [] rest
      .ok (.object members, rest)
  | '[' :: rest => do
      let (members, rest) ← readPositional fields true [] rest
      .ok (.object members, rest)
  | rest => mismatch (.record name) rest

mutual
def read : Schema → Reader Json
  | .bool => readBool
  | .string => readString
  | .list item => readList (read item)
  | .record name fields => readRecord name (readers fields)

def readers : List (String × Schema) → List (String × Reader Json)
  | [] => []
  | (name, schema) :: rest => (name, read schema) :: readers rest
end

def parse (schema : Schema) (text : String) : Except DecodeError Json :=
  whole schema.read text

end Schema

end Delivery.Json
