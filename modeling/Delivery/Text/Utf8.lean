set_option autoImplicit false

namespace Delivery.Text.Utf8

def bytes (text : String) : List UInt8 :=
  text.toByteArray.data.toList

def text? (bytes : List UInt8) : Option String :=
  String.fromUTF8? ⟨bytes.toArray⟩

def size (cs : List Char) : Nat :=
  cs.foldl (fun total c => total + c.utf8Size) 0

def splitAt? : Nat → List Char → Option (List Char × List Char)
  | 0, cs => some ([], cs)
  | _ + 1, [] => none
  | count + 1, c :: rest =>
      if count + 1 < c.utf8Size then none
      else (splitAt? (count + 1 - c.utf8Size) rest).map fun (front, back) => (c :: front, back)

def slice? (start stop : Nat) (cs : List Char) : Option (List Char) :=
  (splitAt? stop cs).bind fun (front, _) => (splitAt? start front).map (·.2)

theorem append_of_splitAt? {count : Nat} {cs front back : List Char}
    (split : splitAt? count cs = some (front, back)) : front ++ back = cs := by
  induction cs generalizing count front with
  | nil => cases count <;> simp_all [splitAt?]
  | cons c rest ih =>
      cases count with
      | zero => simp_all [splitAt?]
      | succ count =>
          rw [splitAt?] at split
          by_cases inside : count + 1 < c.utf8Size
          · simp [inside] at split
          · rw [if_neg inside] at split
            obtain ⟨parts, found, same⟩ := Option.map_eq_some_iff.mp split
            cases same
            simp [ih found]

theorem text?_bytes (text : String) : text? (bytes text) = some text := by
  simp [text?, bytes, String.fromUTF8?, text.isValidUTF8, String.fromUTF8]

theorem bytes_of_text? {content : List UInt8} {text : String} (valid : text? content = some text) :
    bytes text = content := by
  simp only [text?, String.fromUTF8?] at valid
  split at valid
  · cases valid
    simp [bytes, String.fromUTF8]
  · cases valid

end Delivery.Text.Utf8
