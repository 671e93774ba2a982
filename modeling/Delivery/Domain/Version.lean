import Delivery.Json.Codec
import Delivery.Text.Blank
set_option autoImplicit false

namespace Delivery

structure ChartVersion where
  major : UInt32
  minor : UInt32
  patch : UInt32
  deriving DecidableEq, Repr, Inhabited

namespace ChartVersion

instance : Ord ChartVersion :=
  ⟨fun first second =>
    ((compare first.major second.major).then (compare first.minor second.minor)).then
      (compare first.patch second.patch)⟩

def sameBucket (first second : ChartVersion) : Bool :=
  first.major == second.major && first.minor == second.minor

def bumpPatch (version : ChartVersion) : ChartVersion :=
  { version with patch := if version.patch = 4294967295 then version.patch else version.patch + 1 }

def firstInBucket (major minor : UInt32) : ChartVersion := ⟨major, minor, 1⟩

def supportsAppMetrics (version : ChartVersion) : Bool :=
  3 < version.major || (version.major == 3 && 7 ≤ version.minor)

def newer (first second : ChartVersion) : ChartVersion :=
  if compare first second = .lt then second else first

def newest? : List ChartVersion → Option ChartVersion
  | [] => none
  | version :: rest => some (rest.foldl newer version)

def wordText (n : UInt32) : List Char := Text.Decimal.ofNat n.toNat

def chars (version : ChartVersion) : List Char :=
  wordText version.major ++ '.' :: wordText version.minor ++ '.' :: wordText version.patch

def text (version : ChartVersion) : String := String.ofList version.chars

def ofChars? (cs : List Char) : Option ChartVersion :=
  match Text.pieces '.' cs with
  | [major, minor, patch] => do
      return ⟨← Text.Decimal.uint32? major, ← Text.Decimal.uint32? minor, ← Text.Decimal.uint32? patch⟩
  | _ => none

def parse? (text : String) : Option ChartVersion :=
  ofChars? (Text.trimChars text.toList)

def parseError (text : String) : String := "Invalid chart version: " ++ text

structure Unreadable where
  text : String
  deriving DecidableEq, Repr

def Unreadable.message (error : Unreadable) : String := parseError error.text

def parse (text : String) : Except Unreadable ChartVersion :=
  match parse? text with
  | some version => .ok version
  | none => .error ⟨text⟩

def codec : Codec ChartVersion :=
  Codec.record "ChartVersion" <|
    (Codec.Fields.start ChartVersion.mk)
      |>.field "major" (·.major) Codec.uint32
      |>.field "minor" (·.minor) Codec.uint32
      |>.field "patch" (·.patch) Codec.uint32

end ChartVersion

end Delivery
