import Delivery.Proofs.Text.Base64
import Delivery.Proofs.Text.Decimal
import Delivery.Proofs.Text.Pieces
import Delivery.Webhook.ApiKey
set_option autoImplicit false

namespace Delivery.ApiKey

structure Names (key : String) (id : ExternalCiId) (token : String) : Prop where
  once : key.toList.count '.' = 1
  parts : ∃ text : String, key.toList = Text.Base64.encode (Text.Utf8.bytes text) ++ '.' :: token.toList ∧
    Text.Decimal.Signed text.toList id.raw.toInt

structure Admits (store : Store) (id : ExternalCiId) (token : String) (external : ExternalCiPipeline) : Prop where
  registered : store.externalCis.get? id = some external
  active : external.active = true
  token : external.accessToken = token

def Opens (store : Store) (key : String) (id : ExternalCiId) : Prop :=
  ∃ token external, Names key id token ∧ Admits store id token external

theorem identifier_iff {encoded : List Char} {id : ExternalCiId} : identifier? encoded = some id ↔
    ∃ text : String, encoded = Text.Base64.encode (Text.Utf8.bytes text) ∧
      Text.Decimal.Signed text.toList id.raw.toInt := by
  constructor
  · intro read
    obtain ⟨bytes, decoded, valid⟩ := Option.bind_eq_some_iff.mp read
    obtain ⟨text, meant, numeral⟩ := Option.bind_eq_some_iff.mp valid
    obtain ⟨word, number, same⟩ := Option.bind_eq_some_iff.mp numeral
    cases same
    rw [← Text.Utf8.bytes_of_text? meant] at decoded
    exact ⟨text, Text.Base64.decode_iff.mp decoded, Text.Decimal.int64_iff.mp number⟩
  · rintro ⟨text, rfl, signed⟩
    have number : Text.Decimal.int64? text.toList = some id.raw := Text.Decimal.int64_iff.mpr signed
    simp [identifier?, Text.Base64.decode_of_encode, Text.Utf8.text?_bytes, number]

theorem names_iff {key token : String} {id : ExternalCiId} : Names key id token ↔
    ∃ encoded, Text.pieces '.' key.toList = [encoded, token.toList] ∧ identifier? encoded = some id := by
  constructor
  · rintro ⟨once, text, parts, signed⟩
    have total := once
    rw [parts, List.count_append, List.count_cons_self] at total
    have first : '.' ∉ Text.Base64.encode (Text.Utf8.bytes text) := List.count_eq_zero.mp (by omega)
    have second : '.' ∉ token.toList := List.count_eq_zero.mp (by omega)
    exact ⟨_, Text.two_pieces_iff.mpr ⟨parts, first, second⟩, identifier_iff.mpr ⟨text, rfl, signed⟩⟩
  · rintro ⟨encoded, pieced, read⟩
    obtain ⟨parts, first, second⟩ := Text.two_pieces_iff.mp pieced
    obtain ⟨text, rfl, signed⟩ := identifier_iff.mp read
    refine ⟨?_, text, parts, signed⟩
    rw [parts, List.count_append, List.count_cons_self, List.count_eq_zero.mpr first, List.count_eq_zero.mpr second]

theorem names_one_identifier {key token otherToken : String} {id other : ExternalCiId} (named : Names key id token)
    (again : Names key other otherToken) : id = other := by
  obtain ⟨encoded, pieced, read⟩ := names_iff.mp named
  obtain ⟨otherEncoded, otherPieced, otherRead⟩ := names_iff.mp again
  rw [pieced] at otherPieced
  obtain ⟨rfl, _⟩ := List.cons.inj otherPieced
  exact Option.some.inj (read.symm.trans otherRead)

section Answer

variable {store : Store} {key : String} {id : ExternalCiId}

theorem admitted_iff {token : String} :
    ((store.externalCi? id).any fun external => external.accessToken.toList == token.toList) = true ↔
      ∃ external, Admits store id token external := by
  rw [Option.any_eq_true]
  constructor
  · rintro ⟨external, found, same⟩
    obtain ⟨registered, active⟩ := Option.filter_eq_some_iff.mp found
    exact ⟨external, registered, active, String.toList_inj.mp (beq_iff_eq.mp same)⟩
  · rintro ⟨external, registered, active, rfl⟩
    exact ⟨external, Option.filter_eq_some_iff.mpr ⟨registered, active⟩, beq_self_eq_true _⟩

theorem authenticate_ok_iff : authenticate store key = .ok id ↔ Opens store key id := by
  constructor
  · intro accepted
    unfold authenticate at accepted
    split at accepted
    · next encoded token pieced =>
        cases read : identifier? encoded with
        | none => simp [read] at accepted
        | some found =>
            simp only [read] at accepted
            split at accepted
            · next admitted =>
                cases accepted
                rw [← String.toList_ofList (l := token)] at pieced admitted
                obtain ⟨external, admits⟩ := admitted_iff.mp admitted
                exact ⟨_, external, names_iff.mpr ⟨encoded, pieced, read⟩, admits⟩
            · cases accepted
    · cases accepted
  · rintro ⟨token, external, named, admits⟩
    obtain ⟨encoded, pieced, read⟩ := names_iff.mp named
    have admitted := admitted_iff.mpr ⟨external, admits⟩
    simp [authenticate, pieced, read, admitted]

theorem authenticate_cases (store : Store) (key : String) :
    (∃ id, authenticate store key = .ok id) ∨ ∃ reason, authenticate store key = .error (invalid reason) := by
  unfold authenticate
  split
  · split
    · exact .inr ⟨_, rfl⟩
    · split
      · exact .inl ⟨_, rfl⟩
      · exact .inr ⟨_, rfl⟩
  · exact .inr ⟨_, rfl⟩

theorem run_resolve (store : Store) (key : String) : (resolve key).run store = (authenticate store key, store) := by
  unfold resolve authenticate
  split
  · next encoded token pieced =>
      cases identifier? encoded with
      | none => rfl
      | some id =>
          simp only [Service.run_bind, Service.run_require]
          cases store.externalCi? id with
          | none => rfl
          | some external =>
              simp only [Option.any_some]
              split <;> rfl
  · rfl

end Answer

/-- Only the key of an active registration is taken, and as that registration; every other text is refused as an
invalid key, and no answer changes the store. So a key stands for one identifier wherever it is shown, and an
identifier without an active registration has no key. -/
theorem no_forged_key_taken (store : Store) (key : String) :
    (∀ id, authenticate store key = .ok id ↔ Opens store key id) ∧
    ((∀ id, ¬ Opens store key id) →
      ∃ reason, authenticate store key = .error (.authorization (.invalidApiKey reason))) ∧
    (resolve key).run store = (authenticate store key, store) ∧
    (∀ otherStore id other, authenticate store key = .ok id → authenticate otherStore key = .ok other → id = other) ∧
    ∀ id, (∀ external, store.externalCis.get? id = some external → external.active = false) →
      authenticate store key ≠ .ok id := by
  refine ⟨fun id => authenticate_ok_iff, fun closed => ?refused, run_resolve store key, ?one, ?inactive⟩
  case refused =>
    rcases authenticate_cases store key with ⟨id, accepted⟩ | refused
    · exact absurd (authenticate_ok_iff.mp accepted) (closed id)
    · exact refused
  case one =>
    intro otherStore id other accepted again
    obtain ⟨token, _, named, _⟩ := authenticate_ok_iff.mp accepted
    obtain ⟨otherToken, _, namedAgain, _⟩ := authenticate_ok_iff.mp again
    exact names_one_identifier named namedAgain
  case inactive =>
    intro id inactive accepted
    obtain ⟨token, external, _, admits⟩ := authenticate_ok_iff.mp accepted
    have gone := inactive external admits.registered
    rw [admits.active] at gone
    cases gone

example : identifier? "NQ==".toList = some ⟨5⟩ ∧ identifier? "NR==".toList = none ∧
    identifier? (Text.Base64.encode (Text.Utf8.bytes "9223372036854775808")) = none := by
  refine ⟨?_, ?_, ?_⟩ <;> cbv

end Delivery.ApiKey
