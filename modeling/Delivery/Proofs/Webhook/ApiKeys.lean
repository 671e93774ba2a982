import Mathlib
import Delivery.Proofs.Store.Reachable
import Delivery.Proofs.Text.Base64
import Delivery.Proofs.Text.Decimal
import Delivery.Proofs.Text.Pieces
import Delivery.Rehearsal.Samples
import Delivery.Webhook.ApiKey
set_option autoImplicit false

namespace Delivery.ApiKey

open Store

theorem identifier_encoded (id : ExternalCiId) :
    identifier? (Text.Base64.encode (Text.Utf8.bytes id.text)) = some id := by
  have number : Text.Decimal.int64? id.text.toList = some id.raw := Text.Decimal.int64_of_text id.raw
  simp [identifier?, Text.Base64.decode_of_encode, Text.Utf8.text?_bytes, number]

theorem issued_pieces (external : ExternalCiPipeline) :
    Text.pieces '.' (issue external).toList =
      Text.Base64.encode (Text.Utf8.bytes external.id.text) :: Text.pieces '.' external.accessToken.toList := by
  rw [issue, String.toList_ofList, Text.pieces_append (Text.Base64.point_not_encoded _)]

section Issued

variable {store : Store} {external : ExternalCiPipeline}

theorem issued_key_accepted (registered : store.externalCi? external.id = some external)
    (plain : '.' ∉ external.accessToken.toList) : authenticate store (issue external) = .ok external.id := by
  rw [authenticate, issued_pieces, Text.pieces_of_absent plain]
  simp [identifier_encoded, registered]

theorem issued_key_refused (pointed : '.' ∈ external.accessToken.toList) :
    authenticate store (issue external) = .error (invalid "invalid key") := by
  obtain ⟨first, second, more, pieced⟩ := Text.pieces_of_present pointed
  rw [authenticate, issued_pieces, pieced]

end Issued

/-- The key of an active registration is taken exactly when there is no point in its token; otherwise it is refused
as no key at all. -/
theorem issued_key_works_iff {store : Store} {id : ExternalCiId} {external : ExternalCiPipeline}
    (reached : Reachable store) (found : store.externalCis.get? id = some external)
    (active : external.active = true) :
    (authenticate store (issue external) = .ok id ↔ '.' ∉ external.accessToken.toList) ∧
    ('.' ∈ external.accessToken.toList → authenticate store (issue external) = .error (invalid "invalid key")) := by
  have own : external.id = id := (reachable_registered reached).externals found
  have registered : store.externalCi? external.id = some external := by
    rw [own, externalCi?, found]
    simp [active]
  refine ⟨⟨fun accepted pointed => ?_, fun plain => ?_⟩, issued_key_refused⟩
  · rw [issued_key_refused pointed] at accepted
    cases accepted
  · rw [← own]
    exact issued_key_accepted registered plain

def sampleRegistration (token : String) : ExternalCiPipeline :=
  { Sample.externalCi with id := ⟨-42⟩, accessToken := token }

def sampleStore (token : String) : Store :=
  Store.empty.putExternalCi (sampleRegistration token)

theorem sample_store_reachable (token : String) : Reachable (sampleStore token) :=
  .step .empty (.putExternalCi _)

theorem sample_registered (token : String) :
    (sampleStore token).externalCis.get? ⟨-42⟩ = some (sampleRegistration token) :=
  Table.get_insert_same _ _ _

theorem sample_issued_key_works :
    issue (sampleRegistration "s3=/cret") = "LTQy.s3=/cret" ∧
    authenticate (sampleStore "s3=/cret") "LTQy.s3=/cret" = .ok ⟨-42⟩ ∧
    authenticate (sampleStore "v1.s3cret") "LTQy.v1.s3cret" = .error (invalid "invalid key") := by
  have written : issue (sampleRegistration "s3=/cret") = "LTQy.s3=/cret" := by cbv
  have pointed : issue (sampleRegistration "v1.s3cret") = "LTQy.v1.s3cret" := by cbv
  obtain ⟨works, _⟩ := issued_key_works_iff (sample_store_reachable "s3=/cret") (sample_registered _) rfl
  obtain ⟨_, fails⟩ := issued_key_works_iff (sample_store_reachable "v1.s3cret") (sample_registered _) rfl
  exact ⟨written, written ▸ works.mpr (by decide), pointed ▸ fails (by decide)⟩

theorem issued_key_with_point_fails :
    ¬ ∀ (store : Store) (id : ExternalCiId) (external : ExternalCiPipeline), Reachable store →
      store.externalCis.get? id = some external → external.active = true →
        authenticate store (issue external) = .ok id := by
  intro works
  have accepted := works (sampleStore "v1.s3cret") ⟨-42⟩ _ (sample_store_reachable _) (sample_registered _) rfl
  rw [issued_key_refused (by decide)] at accepted
  cases accepted

end Delivery.ApiKey
