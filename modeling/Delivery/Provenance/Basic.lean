import Delivery.Domain.Error
import Delivery.Domain.Status
import Delivery.Provenance.Material
set_option autoImplicit false

namespace Delivery.Provenance

def invalid (reason : String) : ValidationError := .invalidMaterialInfo reason

def compact (raw : Option String) : Except ValidationError String :=
  let text := Text.trim (raw.getD "")
  if text = "" then .ok "[]"
  else
    match Json.parse text with
    | .ok value => .ok value.compact
    | .error error => .error (invalid error.message)

def materials (text : String) : Except Json.DecodeError (List MaterialInfo) := do
  MaterialInfo.codec.list.decode (← (Json.Schema.list MaterialInfo.schema).parse text)

def repositoryUrl (material : Material) : Except ValidationError String :=
  if material.typeName = "git" then .ok (Text.trim material.gitConfiguration.url)
  else if material.typeName = "scm" then .ok (Text.trim material.scmConfiguration.url)
  else .error (invalid ("unknown material type: " ++ material.typeName))

def revision (info : MaterialInfo) : Except ValidationError (String × String) := do
  let url ← repositoryUrl info.material
  match info.modifications.head? with
  | some modification => return (url, modification.revision)
  | none => .error (invalid ("material " ++ url ++ " has no modifications"))

def revisions (text : String) (dataSource : String) : Except ValidationError (Table String String) :=
  match DataSource.ofName? dataSource with
  | none => .error (.unsupportedDataSource dataSource)
  | some _ =>
      match materials text with
      | .error error => .error (invalid error.message)
      | .ok infos => (infos.mapM revision).map Table.ofList

def source (text : String) : String :=
  match materials text with
  | .error _ => ""
  | .ok infos => ",".intercalate (infos.filterMap fun info => info.modifications.head?.map (·.revision))

end Delivery.Provenance
