import Delivery.Binary64.Shortest
import Delivery.Json.Basic
set_option autoImplicit false

namespace Delivery.Json

def hexDigit (value : Nat) : Char :=
  if value < 10 then Char.ofNat (48 + value) else Char.ofNat (87 + value)

def escapeChar (c : Char) : List Char :=
  if c = '"' then ['\\', '"']
  else if c = '\\' then ['\\', '\\']
  else if c.toNat = 8 then ['\\', 'b']
  else if c.toNat = 9 then ['\\', 't']
  else if c.toNat = 10 then ['\\', 'n']
  else if c.toNat = 12 then ['\\', 'f']
  else if c.toNat = 13 then ['\\', 'r']
  else if c.toNat < 32 then ['\\', 'u', '0', '0', hexDigit (c.toNat / 16), hexDigit (c.toNat % 16)]
  else [c]

def quoted (s : String) : List Char :=
  '"' :: (s.toList.flatMap escapeChar ++ ['"'])

mutual
def print : Json → List Char
  | .null => ['n', 'u', 'l', 'l']
  | .bool true => ['t', 'r', 'u', 'e']
  | .bool false => ['f', 'a', 'l', 's', 'e']
  | .int n => Text.Decimal.ofInt n
  | .float x => x.toJsonText
  | .string s => quoted s
  | .array items => '[' :: printItems true items
  | .object members => '{' :: printMembers true members

def printItems : Bool → List Json → List Char
  | _, [] => [']']
  | first, item :: rest =>
      (if first then [] else [',']) ++ (print item ++ printItems false rest)

def printMembers : Bool → List (String × Json) → List Char
  | _, [] => ['}']
  | first, (key, value) :: rest =>
      (if first then [] else [',']) ++
        (quoted key ++ ':' :: (print value ++ printMembers false rest))
end

def compact (value : Json) : String :=
  String.ofList (print value)

end Delivery.Json
