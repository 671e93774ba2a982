import Delivery.Json.Basic
set_option autoImplicit false

namespace Delivery.Json

mutual
def merged (target : Json) : Json → Json
  | .object changes => .object (mergedMembers target.members changes)
  | .null => .null
  | .bool value => .bool value
  | .int value => .int value
  | .float value => .float value
  | .string value => .string value
  | .array items => .array items

def mergedMembers (target : List (String × Json)) : List (String × Json) → List (String × Json)
  | [] => target
  | (key, change) :: rest =>
      if change.isNull then mergedMembers (Entries.erase key target) rest
      else
        let before := (Entries.find? key target).getD .null
        mergedMembers (Entries.insert key (merged before change) target) rest
end

end Delivery.Json
