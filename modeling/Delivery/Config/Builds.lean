import Delivery.Config.Variables
import Delivery.Domain.Identity
import Delivery.Domain.Status
import Delivery.Text.Blank
set_option autoImplicit false

namespace Delivery

structure CiConfig where
  batchSize : Int64 := 1
  systemUser : UserId := UserId.system
  defaultDataSource : DataSource := .external
  deriving DecidableEq, Repr, Inhabited

namespace CiConfig

def effectiveBatchSize (config : CiConfig) : Nat :=
  max config.batchSize.toInt 1 |>.toNat

def integer? (text : String) : Option Int64 :=
  Text.Decimal.int64? (Text.trimChars text.toList)

def ofVariables (settings : Variables) : CiConfig :=
  let standard : CiConfig := {}
  let batchSize := (settings.text? "SHIPYARD_CI_AUTO_TRIGGER_BATCH_SIZE").bind integer?
  let systemUser := (settings.text? "SHIPYARD_SYSTEM_USER_ID").bind integer?
  let dataSource := (settings.text? "SHIPYARD_DEFAULT_DATA_SOURCE").bind DataSource.ofName?
  { batchSize := batchSize.getD standard.batchSize
    systemUser := (systemUser.map Id.mk).getD standard.systemUser
    defaultDataSource := dataSource.getD standard.defaultDataSource }

def codec : Codec CiConfig :=
  Codec.record "CiConfig" <|
    (Codec.Fields.start CiConfig.mk)
      |>.field "auto_trigger_batch_size" (·.batchSize) Codec.int64
      |>.field "system_user_id" (·.systemUser) Id.codec
      |>.field "default_data_source" (·.defaultDataSource) DataSource.codec

end CiConfig

end Delivery
