import Delivery.Domain.Identity
set_option autoImplicit false

namespace Delivery

structure AuditLog where
  createdOn : Instant
  createdBy : UserId
  updatedOn : Instant
  updatedBy : UserId
  deriving DecidableEq, Repr

namespace AuditLog

def created (moment : Instant) (user : UserId) : AuditLog := ⟨moment, user, moment, user⟩

def touch (audit : AuditLog) (moment : Instant) (user : UserId) : AuditLog :=
  { audit with updatedOn := moment, updatedBy := user }

def codec : Codec AuditLog :=
  Codec.record "AuditLog" <|
    (Codec.Fields.start AuditLog.mk)
      |>.field "created_on" (·.createdOn) Codec.instant
      |>.field "created_by" (·.createdBy) Id.codec
      |>.field "updated_on" (·.updatedOn) Codec.instant
      |>.field "updated_by" (·.updatedBy) Id.codec

end AuditLog

end Delivery
