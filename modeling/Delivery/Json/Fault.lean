import Delivery.Instant.Rfc3339
import Delivery.Json.Printer
import Delivery.Text.Quoted
import Delivery.Text.Utf8
set_option autoImplicit false

namespace Delivery.Json

inductive SyntaxFault where
  | endInValue
  | endInArray
  | endInObject
  | endInString
  | expectedValue
  | expectedWord
  | expectedColon
  | expectedCommaOrBracket
  | expectedCommaOrBrace
  | keyNotString
  | trailingComma
  | trailingCharacters
  | invalidNumber
  | numberOutOfRange
  | invalidEscape
  | unpairedSurrogate
  | loneSurrogate
  | controlCharacter
  | tooDeep
  deriving DecidableEq, Repr

def SyntaxFault.message : SyntaxFault → String
  | .endInValue => "EOF while parsing a value"
  | .endInArray => "EOF while parsing a list"
  | .endInObject => "EOF while parsing an object"
  | .endInString => "EOF while parsing a string"
  | .expectedValue => "expected value"
  | .expectedWord => "expected ident"
  | .expectedColon => "expected `:`"
  | .expectedCommaOrBracket => "expected `,` or `]`"
  | .expectedCommaOrBrace => "expected `,` or `\x7d`"
  | .keyNotString => "key must be a string"
  | .trailingComma => "trailing comma"
  | .trailingCharacters => "trailing characters"
  | .invalidNumber => "invalid number"
  | .numberOutOfRange => "number out of range"
  | .invalidEscape => "invalid escape"
  | .unpairedSurrogate => "unexpected end of hex escape"
  | .loneSurrogate => "lone leading surrogate in hex escape"
  | .controlCharacter => "control character (\\u0000-\\u001F) found while parsing a string"
  | .tooDeep => "recursion limit exceeded"

inductive Found where
  | null
  | bool (value : Bool)
  | int (value : Int)
  | float (value : Binary64)
  | string (value : String)
  | array
  | object
  deriving DecidableEq, Repr

def found : Json → Found
  | .null => .null
  | .bool value => .bool value
  | .int value => .int value
  | .float value => .float value
  | .string value => .string value
  | .array _ => .array
  | .object _ => .object

def Found.describe : Found → String
  | .null => "null"
  | .bool value => "boolean `" ++ (if value then "true" else "false") ++ "`"
  | .int value => "integer `" ++ String.ofList (Text.Decimal.ofInt value) ++ "`"
  | .float value => "floating point `" ++ String.ofList value.toJsonText ++ "`"
  | .string value => "string " ++ Text.Quoted.encode value
  | .array => "sequence"
  | .object => "map"

inductive Wanted where
  | string
  | boolean
  | int64
  | uint32
  | array
  | object
  | record (name : String)
  | recordOf (name : String) (count : Nat)
  | variant
  | singleMember
  | nothing
  | instant
  | fewerItems
  deriving DecidableEq, Repr

def Wanted.describe : Wanted → String
  | .string => "a string"
  | .boolean => "a boolean"
  | .int64 => "i64"
  | .uint32 => "u32"
  | .array => "a sequence"
  | .object => "a map"
  | .record name => "struct " ++ name
  | .recordOf name count =>
      "struct " ++ name ++ " with " ++ toString count ++ (if count = 1 then " element" else " elements")
  | .variant => "string or map"
  | .singleMember => "map with a single key"
  | .nothing => "unit"
  | .instant => "an RFC 3339 formatted date and time string"
  | .fewerItems => "fewer elements in array"

structure Place where
  line : Nat
  column : Nat
  deriving DecidableEq, Repr

inductive DecodeError where
  | wrongType (found : Found) (wanted : Wanted)
  | wrongValue (found : Found) (wanted : Wanted)
  | wrongLength (length : Nat) (wanted : Wanted)
  | missingField (name : String)
  | duplicateField (name : String)
  | unknownVariant (name : String) (known : List String)
  | time (fault : Instant.Fault)
  | syntactic (fault : SyntaxFault)
  | keyNotNumber
  | located (error : DecodeError) (place : Place)
  deriving DecidableEq, Repr

def describeNames : List String → String
  | [] => "there are no variants"
  | [name] => "expected `" ++ name ++ "`"
  | [first, second] => "expected `" ++ first ++ "` or `" ++ second ++ "`"
  | names => "expected one of " ++ ", ".intercalate (names.map fun name => "`" ++ name ++ "`")

def DecodeError.message : DecodeError → String
  | .wrongType found wanted => "invalid type: " ++ found.describe ++ ", expected " ++ wanted.describe
  | .wrongValue found wanted => "invalid value: " ++ found.describe ++ ", expected " ++ wanted.describe
  | .wrongLength length wanted =>
      "invalid length " ++ toString length ++ ", expected " ++ wanted.describe
  | .missingField name => "missing field `" ++ name ++ "`"
  | .duplicateField name => "duplicate field `" ++ name ++ "`"
  | .unknownVariant name known => "unknown variant `" ++ name ++ "`, " ++ describeNames known
  | .time fault => fault.message
  | .syntactic fault => fault.message
  | .keyNotNumber => "invalid value: expected key to be a number in quotes"
  | .located error place =>
      error.message ++ " at line " ++ toString place.line ++ " column " ++ toString place.column

-- An error at a distance from the end of the text: `ahead` bytes into what is left to read.
structure Fault where
  error : DecodeError
  rest : List Char
  ahead : Nat := 0
  deriving DecidableEq, Repr

def utf8Bytes (cs : List Char) : List UInt8 :=
  Text.Utf8.bytes (String.ofList cs)

def Place.after (bytes : List UInt8) : Place :=
  bytes.foldl
    (fun place byte => if byte = 10 then ⟨place.line + 1, 0⟩ else ⟨place.line, place.column + 1⟩)
    ⟨1, 0⟩

def Fault.place (text : List Char) (fault : Fault) : Place :=
  let bytes := utf8Bytes text
  Place.after (bytes.take (bytes.length - (utf8Bytes fault.rest).length + fault.ahead))

def Fault.locate (text : List Char) (fault : Fault) : DecodeError :=
  .located fault.error (fault.place text)

abbrev Reader (α : Type) := List Char → Except Fault (α × List Char)

def Fault.here {α : Type} (fault : SyntaxFault) (rest : List Char) : Except Fault α :=
  .error { error := .syntactic fault, rest }

def Fault.next {α : Type} (fault : SyntaxFault) (rest : List Char) : Except Fault α :=
  .error { error := .syntactic fault, rest, ahead := 1 }

end Delivery.Json
