import Delivery.Flow
import Delivery.Store.Pipelines
import Delivery.Text.Base64
import Delivery.Text.Blank
import Delivery.Text.Utf8
set_option autoImplicit false

namespace Delivery.ApiKey

def issue (external : ExternalCiPipeline) : String :=
  let encoded := Text.Base64.encode (Text.Utf8.bytes external.id.text)
  String.ofList (encoded ++ '.' :: external.accessToken.toList)

def invalid (reason : String) : Error := .authorization (.invalidApiKey reason)

def identifier? (encoded : List Char) : Option ExternalCiId := do
  let text ← Text.Utf8.text? (← Text.Base64.decode encoded)
  return ⟨← Text.Decimal.int64? text.toList⟩

def authenticate (store : Store) (key : String) : Except Error ExternalCiId :=
  match Text.pieces '.' key.toList with
  | [encoded, token] =>
      match identifier? encoded with
      | none => .error (invalid "invalid ci pipeline")
      | some id =>
          if (store.externalCi? id).any fun external => external.accessToken.toList == token then
            .ok id
          else .error (invalid "invalid key, auth failed")
  | _ => .error (invalid "invalid key")

def resolve (key : String) : Service Store ExternalCiId :=
  match Text.pieces '.' key.toList with
  | [encoded, token] =>
      match identifier? encoded with
      | none => throw (invalid "invalid ci pipeline")
      | some id => do
          let external ← Service.require (·.externalCi? id) (invalid "invalid key, auth failed")
          if external.accessToken.toList == token then return id
          else throw (invalid "invalid key, auth failed")
  | _ => throw (invalid "invalid key")

end Delivery.ApiKey
