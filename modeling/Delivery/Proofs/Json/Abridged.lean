import Delivery.Proofs.Json.Codecs
import Delivery.Json.Schema
set_option autoImplicit false

namespace Delivery

namespace Json.Schema

mutual
def blank : Schema → Json
  | .bool => .bool false
  | .string => .string ""
  | .list _ => .array []
  | .record _ fields => ofMembers (blanks fields)

def blanks : List (String × Schema) → List (String × Json)
  | [] => []
  | (name, schema) :: rest => (name, schema.blank) :: blanks rest
end

mutual
def Abridges : Schema → Json → Json → Prop
  | .bool => fun whole short => short = whole
  | .string => fun whole short => short = whole
  | .list item => fun whole short => ∃ items shorts,
      whole = .array items ∧ short = .array shorts ∧ List.Forall₂ item.Abridges items shorts
  | .record _ fields => fun whole short => ∃ members shorts,
      whole = .object members ∧ short = .object shorts ∧ Entries.Sorted shorts ∧
        shorts.map (·.1) ⊆ fields.map (·.1) ∧ AbridgesFields fields members shorts

def AbridgesFields : List (String × Schema) → List (String × Json) → List (String × Json) → Prop
  | [] => fun _ _ => True
  | (name, schema) :: rest => fun members shorts =>
      (match Entries.find? name shorts with
        | some short => ∃ whole, Entries.find? name members = some whole ∧ schema.Abridges whole short
        | none => Entries.find? name members = some schema.blank) ∧
      AbridgesFields rest members shorts
end

theorem abridges_fields_append {first second : List (String × Schema)} {members shorts : List (String × Json)} :
    AbridgesFields (first ++ second) members shorts ↔
      AbridgesFields first members shorts ∧ AbridgesFields second members shorts := by
  induction first with
  | nil => simp [AbridgesFields]
  | cons field rest ih => simp [AbridgesFields, ih, and_assoc]

end Json.Schema

namespace Codec

open Json

theorem bool_lawful : bool.Lawful := fun _ => rfl

theorem string_lawful : string.Lawful := fun _ => rfl

theorem list_lawful {α : Type} {codec : Codec α} (lawful : codec.Lawful) : codec.list.Lawful :=
  fun _ => list_reads fun value _ => lawful value

def Forgives {α : Type} (codec : Codec α) (schema : Schema) (value : α) : Prop :=
  ∀ short, schema.Abridges (codec.encode value) short → codec.decode short = .ok value

theorem bool_forgives (value : Bool) : bool.Forgives .bool value := by
  rintro short rfl
  rfl

theorem string_forgives (value : String) : string.Forgives .string value := by
  rintro short rfl
  rfl

theorem list_forgives {α : Type} {codec : Codec α} {schema : Schema} {values : List α}
    (forgives : ∀ value ∈ values, codec.Forgives schema value) : codec.list.Forgives (.list schema) values := by
  rintro short ⟨items, shorts, whole, rfl, abridged⟩
  cases whole
  have pairs : List.Forall₂
      (fun value short => codec.Forgives schema value ∧ schema.Abridges (codec.encode value) short) values shorts :=
    (List.forall₂_and_left _ _).mpr ⟨forgives, List.forall₂_map_left_iff.mp abridged⟩
  exact attempts_ok_iff.mpr (pairs.flip.imp fun short value pair => pair.1 short pair.2)

section Field

variable {β : Type} {codec : Codec β} {schema : Schema} {name : String} {members shorts : List (String × Json)}
  {value : β}

theorem field_read (forgives : codec.Forgives schema value)
    (written : Entries.find? name members = some (codec.encode value))
    (abridged : Schema.AbridgesFields [(name, schema)] members shorts) {short : Json}
    (there : Entries.find? name shorts = some short) : codec.decode short = .ok value := by
  have own := abridged.1
  rw [there] at own
  obtain ⟨whole, found, shorter⟩ := own
  rw [written] at found
  cases found
  exact forgives short shorter

theorem field_left_out {default : β} (lawful : codec.Lawful) (blank : schema.blank = codec.encode default)
    (written : Entries.find? name members = some (codec.encode value))
    (abridged : Schema.AbridgesFields [(name, schema)] members shorts)
    (gone : Entries.find? name shorts = none) : value = default := by
  have own := abridged.1
  rw [gone] at own
  have same : codec.encode value = codec.encode default := blank ▸ Option.some.inj (written.symm.trans own)
  have read := lawful value
  rw [same, lawful default] at read
  exact (Except.ok.inj read).symm

end Field

section Records

variable {σ α β : Type} {record : σ}

-- What the first fields of a record make of members that may leave defaults out. They are read where they are there
-- and taken to be the default where not, which then was written.
structure Fields.Forgive (fields : Fields σ α) (schemas : List (String × Schema)) (record : σ) (made : α) : Prop where
  names : fields.names = schemas.map (·.1)
  checks : fields.names.Nodup → ∀ members shorts,
    (∀ entry ∈ fields.write record, Entries.find? entry.1 members = some entry.2) →
    Schema.AbridgesFields schemas members shorts → ∀ name short, name ∈ fields.names →
      Entries.find? name shorts = some short → fields.check name short = .ok ()
  makes : ∀ members shorts, (∀ entry ∈ fields.write record, Entries.find? entry.1 members = some entry.2) →
    Schema.AbridgesFields schemas members shorts → fields.fromMembers shorts = .ok made

namespace Fields.Forgive

theorem start (record : σ) (make : α) : (Fields.start make : Fields σ α).Forgive [] record make :=
  ⟨rfl, fun _ _ _ _ _ _ _ none => absurd none List.not_mem_nil, fun _ _ _ _ => rfl⟩

theorem defaulted {fields : Fields σ (β → α)} {schemas : List (String × Schema)} {make : β → α} {name : String}
    {get : σ → β} {codec : Codec β} {default : β} {schema : Schema} (before : fields.Forgive schemas record make)
    (forgives : codec.Forgives schema (get record)) (lawful : codec.Lawful)
    (blank : schema.blank = codec.encode default) :
    (fields.defaulted name get codec default).Forgive (schemas ++ [(name, schema)]) record (make (get record)) := by
  have own : ∀ {members : List (String × Json)},
      (∀ entry ∈ (fields.defaulted name get codec default).write record,
        Entries.find? entry.1 members = some entry.2) →
      (∀ entry ∈ fields.write record, Entries.find? entry.1 members = some entry.2) ∧
        Entries.find? name members = some (codec.encode (get record)) := by
    intro members found
    obtain ⟨earlier, last⟩ := List.forall_mem_append.mp found
    exact ⟨earlier, last (name, codec.encode (get record)) List.mem_cons_self⟩
  constructor
  · simp [Fields.defaulted, Fields.fieldOr, before.names]
  · intro distinct members shorts found abridged key short member there
    obtain ⟨earlier, written⟩ := own found
    obtain ⟨others, last⟩ := Schema.abridges_fields_append.mp abridged
    by_cases same : key = name
    · subst same
      simp [Fields.defaulted, Fields.fieldOr, field_read forgives written last there, Except.map]
    · have old : key ∈ fields.names := by simpa [Fields.defaulted, Fields.fieldOr, same] using member
      simp only [Fields.defaulted, Fields.fieldOr, if_neg same]
      exact before.checks (List.nodup_append.mp distinct).1 members shorts earlier others key short old there
  · intro members shorts found abridged
    obtain ⟨earlier, written⟩ := own found
    obtain ⟨others, last⟩ := Schema.abridges_fields_append.mp abridged
    have made := before.makes members shorts earlier others
    cases there : Entries.find? name shorts with
    | some short =>
        have read := field_read forgives written last there
        simp [Fields.defaulted, Fields.fieldOr, made, there, read, bind, Except.bind, pure, Except.pure]
    | none =>
        have gone := field_left_out lawful blank written last there
        simp [Fields.defaulted, Fields.fieldOr, made, there, gone, bind, Except.bind, pure, Except.pure]

end Fields.Forgive

theorem record_forgives {fields : Fields σ σ} {schemas : List (String × Schema)} {name title : String}
    (distinct : fields.names.Nodup) (written : (fields.write record).map (·.1) = fields.names)
    (forgive : fields.Forgive schemas record record) :
    (Codec.record name fields).Forgives (.record title schemas) record := by
  rintro short ⟨members, shorts, whole, rfl, sorted, known, abridged⟩
  cases whole
  have keys : ((fields.write record).map (·.1)).Nodup := written ▸ distinct
  have found : ∀ entry ∈ fields.write record,
      Entries.find? entry.1 (Entries.ofList (fields.write record)) = some entry.2 :=
    fun entry member => find_of_members keys member
  have checked : checkMembers fields.check shorts = .ok () := by
    apply members_checked
    intro entry member
    have there := Entries.find_of_mem sorted member
    have field : entry.1 ∈ fields.names := forgive.names ▸ known (List.mem_map.mpr ⟨entry, member, rfl⟩)
    exact forgive.checks distinct _ _ found abridged entry.1 entry.2 field there
  have made := forgive.makes _ _ found abridged
  simp [Codec.record, checked, made, bind, Except.bind]

end Records

end Codec

end Delivery
