import Delivery.Json.Reader
import Delivery.Table
set_option autoImplicit false

namespace Delivery

structure Codec (α : Type) where
  encode : α → Json
  decode : Json → Except Json.DecodeError α
  -- The value of a field of this type that an object leaves out.
  absent : Option α := none

namespace Codec

open Json

def Lawful {α : Type} (codec : Codec α) : Prop :=
  ∀ value, codec.decode (codec.encode value) = .ok value

def wrong {α : Type} (value : Json) (wanted : Wanted) : Except DecodeError α :=
  .error (.wrongType value.found wanted)

def amend {α : Type} (codec : Codec α) (value : α) (changes : Json) : Except DecodeError α :=
  codec.decode (ofMembers ((codec.encode value).members ++ changes.members))

def json : Codec Json where
  encode value := value
  decode value := .ok value

def bool : Codec Bool where
  encode := .bool
  decode
    | .bool value => .ok value
    | value => wrong value .boolean

def string : Codec String where
  encode := .string
  decode
    | .string value => .ok value
    | value => wrong value .string

def int64 : Codec Int64 where
  encode value := .int value.toInt
  decode
    | .int value =>
        if Text.Decimal.fitsInt64 value then .ok (Int64.ofInt value)
        else .error (.wrongValue (.int value) .int64)
    | value => wrong value .int64

def uint32 : Codec UInt32 where
  encode value := .int value.toNat
  decode
    | .int value =>
        if Text.Decimal.fitsUInt32 value then .ok (UInt32.ofNat value.toNat)
        else .error (.wrongValue (.int value) .uint32)
    | value => wrong value .uint32

def instant : Codec Instant where
  encode value := .string value.write
  decode
    | .string text =>
        match Instant.read text with
        | .ok value => .ok value
        | .error fault => .error (.time fault)
    | value => wrong value .instant

def option {α : Type} (codec : Codec α) : Codec (Option α) where
  encode
    | none => .null
    | some value => codec.encode value
  decode
    | .null => .ok none
    | value => (codec.decode value).map some
  absent := some none

def list {α : Type} (codec : Codec α) : Codec (List α) where
  encode values := .array (values.map codec.encode)
  decode
    | .array items => items.mapM codec.decode
    | value => wrong value .array

def via {α β : Type} (codec : Codec α) (wrap : α → β) (unwrap : β → α) : Codec β where
  encode value := codec.encode (unwrap value)
  decode value := (codec.decode value).map wrap

def variantNamed {α : Type} (name : α → String) (all : List α) (text : String) :
    Except DecodeError α :=
  match all.find? fun value => name value = text with
  | some value => .ok value
  | none => .error (.unknownVariant text (all.map name))

def variant {α : Type} (name : α → String) (all : List α) : Codec α where
  encode value := .string (name value)
  decode
    | .string text => variantNamed name all text
    | .object [(key, content)] => do
        let value ← variantNamed name all key
        if content.isNull then .ok value else wrong content .nothing
    | .object _ => .error (.wrongValue .object .singleMember)
    | value => wrong value .variant

def stringKey (key : String) : Except DecodeError String := .ok key

def integerKey (key : String) : Except DecodeError Int64 :=
  let cs := key.toList
  let number : Except Fault (Json × List Char) :=
    match cs with
    | '-' :: rest => Scan.number true rest
    | _ => Scan.number false cs
  if cs.head? = some '-' || Scan.startsWithDigit cs then
    match number with
    | .error fault => .error (fault.locate cs)
    | .ok (value, rest) =>
        match int64.decode value with
        | .error error => .error (({ error, rest } : Fault).locate cs)
        | .ok value =>
            if rest.isEmpty then .ok value else .error .keyNotNumber
  else .error .keyNotNumber

def tableEntries {κ α : Type} (key : String → Except DecodeError κ) (codec : Codec α) :
    List (String × Json) → Except DecodeError (List (κ × α))
  | [] => .ok []
  | (name, value) :: rest => do
      let parsed ← key name
      let value ← codec.decode value
      let entries ← tableEntries key codec rest
      .ok ((parsed, value) :: entries)

def table {κ α : Type} [Ord κ] [Std.TransOrd κ] (write : κ → String)
    (read : String → Except DecodeError κ) (codec : Codec α) : Codec (Table κ α) where
  encode table := ofMembers (table.entries.map fun entry => (write entry.1, codec.encode entry.2))
  decode
    | .object members => (tableEntries read codec members).map Table.ofList
    | value => wrong value .object

def strings : Codec (Table String String) :=
  table (fun key => key) stringKey string

def byInteger {α : Type} (codec : Codec α) : Codec (Table Int64 α) :=
  table Text.Decimal.ofInt64 integerKey codec

-- The first fields of a record `σ`: how they are written, and how a value `α` that awaits the other fields
-- is read.
structure Fields (σ α : Type) where
  names : List String
  write : σ → List (String × Json)
  check : String → Json → Except DecodeError Unit
  fromMembers : List (String × Json) → Except DecodeError α
  -- Reads the fields from the front of an array; `short` is the error for one that ends before a field
  -- without default, given the number of fields before it.
  fromItems : (short : Nat → DecodeError) → List Json → Except DecodeError (α × List Json)

namespace Fields

variable {σ α β : Type}

def start (make : α) : Fields σ α where
  names := []
  write _ := []
  check _ _ := .ok ()
  fromMembers _ := .ok make
  fromItems _ items := .ok (make, items)

def fieldOr (fields : Fields σ (β → α)) (name : String) (get : σ → β) (codec : Codec β)
    (absent fallback : Option β) : Fields σ α where
  names := fields.names ++ [name]
  write record := fields.write record ++ [(name, codec.encode (get record))]
  check key value :=
    if key = name then (codec.decode value).map fun _ => () else fields.check key value
  fromMembers members := do
    let make ← fields.fromMembers members
    match Entries.find? name members, absent with
    | some value, _ => return make (← codec.decode value)
    | none, some value => return make value
    | none, none => .error (.missingField name)
  fromItems short items := do
    let (make, rest) ← fields.fromItems short items
    match rest, fallback with
    | item :: rest, _ => return (make (← codec.decode item), rest)
    | [], some value => return (make value, [])
    | [], none => .error (short fields.names.length)

def field (fields : Fields σ (β → α)) (name : String) (get : σ → β) (codec : Codec β) : Fields σ α :=
  fields.fieldOr name get codec codec.absent none

def defaulted (fields : Fields σ (β → α)) (name : String) (get : σ → β) (codec : Codec β)
    (default : β) : Fields σ α :=
  fields.fieldOr name get codec (some default) (some default)

def flatten (fields : Fields σ (β → α)) (part : Fields β β) (get : σ → β) : Fields σ α where
  names := fields.names ++ part.names
  write record := fields.write record ++ part.write (get record)
  check key value :=
    if part.names.contains key then part.check key value else fields.check key value
  fromMembers members := do
    let make ← fields.fromMembers members
    return make (← part.fromMembers members)
  fromItems short items := do
    let (make, rest) ← fields.fromItems short items
    let (value, rest) ← part.fromItems (fun before => short (fields.names.length + before)) rest
    return (make value, rest)

end Fields

def checkMembers (check : String → Json → Except DecodeError Unit) :
    List (String × Json) → Except DecodeError Unit
  | [] => .ok ()
  | (key, value) :: rest => do
      check key value
      checkMembers check rest

def record {σ : Type} (name : String) (fields : Fields σ σ) : Codec σ where
  encode value := ofMembers (fields.write value)
  decode
    | .object members => do
        checkMembers fields.check members
        fields.fromMembers members
    | .array items => do
        let short before := DecodeError.wrongLength before (.recordOf name fields.names.length)
        let (value, rest) ← fields.fromItems short items
        if rest.isEmpty then .ok value else .error (.wrongLength items.length .fewerItems)
    | value => wrong value (.record name)

end Codec

end Delivery
