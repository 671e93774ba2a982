import Delivery.Json.Codec
import Delivery.Json.Schema
set_option autoImplicit false

namespace Delivery

structure RepoConfiguration where
  url : String := ""
  deriving DecidableEq, Repr, Inhabited

structure Material where
  pluginId : String := ""
  gitConfiguration : RepoConfiguration := {}
  scmConfiguration : RepoConfiguration := {}
  typeName : String := ""
  deriving DecidableEq, Repr, Inhabited

structure Modification where
  revision : String := ""
  modifiedTime : String := ""
  author : String := ""
  message : String := ""
  branch : String := ""
  deriving DecidableEq, Repr, Inhabited

structure MaterialInfo where
  material : Material := {}
  changed : Bool := false
  modifications : List Modification := []
  deriving DecidableEq, Repr, Inhabited

namespace RepoConfiguration

def codec : Codec RepoConfiguration :=
  Codec.record "RepoConfiguration" <|
    (Codec.Fields.start RepoConfiguration.mk)
      |>.defaulted "url" (·.url) Codec.string ""

def schema : Json.Schema := .record "RepoConfiguration" [("url", .string)]

end RepoConfiguration

namespace Material

def codec : Codec Material :=
  Codec.record "Material" <|
    (Codec.Fields.start Material.mk)
      |>.defaulted "plugin-id" (·.pluginId) Codec.string ""
      |>.defaulted "git-configuration" (·.gitConfiguration) RepoConfiguration.codec {}
      |>.defaulted "scm-configuration" (·.scmConfiguration) RepoConfiguration.codec {}
      |>.defaulted "type" (·.typeName) Codec.string ""

def schema : Json.Schema :=
  .record "Material"
    [("plugin-id", .string), ("git-configuration", RepoConfiguration.schema),
      ("scm-configuration", RepoConfiguration.schema), ("type", .string)]

end Material

namespace Modification

def codec : Codec Modification :=
  Codec.record "Modification" <|
    (Codec.Fields.start Modification.mk)
      |>.defaulted "revision" (·.revision) Codec.string ""
      |>.defaulted "modified-time" (·.modifiedTime) Codec.string ""
      |>.defaulted "author" (·.author) Codec.string ""
      |>.defaulted "message" (·.message) Codec.string ""
      |>.defaulted "branch" (·.branch) Codec.string ""

def schema : Json.Schema :=
  .record "Modification"
    [("revision", .string), ("modified-time", .string), ("author", .string), ("message", .string),
      ("branch", .string)]

end Modification

namespace MaterialInfo

def codec : Codec MaterialInfo :=
  Codec.record "MaterialInfo" <|
    (Codec.Fields.start MaterialInfo.mk)
      |>.defaulted "material" (·.material) Material.codec {}
      |>.defaulted "changed" (·.changed) Codec.bool false
      |>.defaulted "modifications" (·.modifications) Modification.codec.list []

def schema : Json.Schema :=
  .record "MaterialInfo"
    [("material", Material.schema), ("changed", .bool),
      ("modifications", .list Modification.schema)]

end MaterialInfo

end Delivery
