import Delivery.Proofs.Attempts
import Delivery.Proofs.Instant.Rfc3339
import Delivery.Json.Codec
import Mathlib.Data.List.Forall2
import Mathlib.Data.List.Nodup
import Mathlib.Data.List.Perm.Basic
set_option autoImplicit false

namespace Delivery.Codec

open Json

-- The value is read again from what is written of it, and text can say that, `given` that it can say the JSON values
-- within it, which are written as they are.
structure Keeps {α : Type} (codec : Codec α) (given : Prop) (depth : Nat) (value : α) : Prop where
  reads : codec.decode (codec.encode value) = .ok value
  readable : given → (codec.encode value).Readable depth
  floatFree : given → (codec.encode value).FloatFree

section Scalars

variable {given : Prop} {depth : Nat}

theorem string_keeps (value : String) : string.Keeps given depth value :=
  ⟨rfl, fun _ => by simp [string, Readable], fun _ => trivial⟩

theorem bool_keeps (value : Bool) : bool.Keeps given depth value :=
  ⟨rfl, fun _ => by simp [bool, Readable], fun _ => trivial⟩

theorem int64_keeps (value : Int64) : int64.Keeps given depth value := by
  have low := Int64.le_toInt value
  have high := Int64.toInt_lt value
  have fits : Text.Decimal.fitsInt64 value.toInt = true := by
    simp [Text.Decimal.fitsInt64]
    omega
  constructor
  · simp [int64, fits]
  · intro _
    simp [int64, Readable, fitsInteger]
    omega
  · exact fun _ => trivial

theorem uint32_keeps (value : UInt32) : uint32.Keeps given depth value := by
  have high := value.toNat_lt
  have fits : Text.Decimal.fitsUInt32 value.toNat = true := by
    simp [Text.Decimal.fitsUInt32]
    omega
  constructor
  · simp [uint32, fits]
  · intro _
    simp [uint32, Readable, fitsInteger]
    omega
  · exact fun _ => trivial

theorem instant_keeps {value : Instant} (inYears : value.FourDigitYear) : instant.Keeps given depth value :=
  ⟨by simp [instant, Instant.read_write inYears], fun _ => by simp [instant, Readable], fun _ => trivial⟩

theorem json_keeps {value : Json} (said : given → value.Readable depth ∧ value.FloatFree) :
    json.Keeps given depth value :=
  ⟨rfl, fun held => (said held).1, fun held => (said held).2⟩

theorem variant_keeps {α : Type} {name : α → String} {all : List α} (distinct : (all.map name).Nodup) {value : α}
    (listed : value ∈ all) : (variant name all).Keeps given depth value := by
  have found : all.find? (fun other => name other = name value) = some value := by
    cases looked : all.find? (fun other => name other = name value) with
    | none => simpa using List.find?_eq_none.mp looked value listed
    | some other =>
        have same : name other = name value := by simpa using List.find?_some looked
        rw [List.inj_on_of_nodup_map distinct (List.mem_of_find?_eq_some looked) listed same]
  exact ⟨by simp [variant, variantNamed, found], fun _ => by simp [variant, Readable], fun _ => trivial⟩

theorem via_keeps {α β : Type} {codec : Codec α} {wrap : α → β} {unwrap : β → α} {value : β}
    (kept : codec.Keeps given depth (unwrap value)) (again : wrap (unwrap value) = value) :
    (codec.via wrap unwrap).Keeps given depth value :=
  ⟨by simp [via, kept.reads, again, Except.map], kept.readable, kept.floatFree⟩

theorem option_keeps {α : Type} {codec : Codec α} {value : Option α}
    (shown : ∀ present ∈ value, codec.encode present ≠ .null)
    (kept : ∀ present ∈ value, codec.Keeps given depth present) : codec.option.Keeps given depth value := by
  cases value with
  | none => exact ⟨rfl, fun _ => by simp [option, Readable], fun _ => trivial⟩
  | some present =>
      have inner := kept present rfl
      have notNull := shown present rfl
      exact ⟨by simp [option, inner.reads, Except.map], inner.readable, inner.floatFree⟩

theorem list_reads {α : Type} {codec : Codec α} {values : List α}
    (reads : ∀ value ∈ values, codec.decode (codec.encode value) = .ok value) :
    codec.list.decode (codec.list.encode values) = .ok values := by
  have read : List.Forall₂ (fun item value => codec.decode item = .ok value) (values.map codec.encode) values :=
    List.forall₂_map_left_iff.mpr (List.forall₂_same.mpr reads)
  exact attempts_ok_iff.mpr read

theorem list_keeps {α : Type} {codec : Codec α} {values : List α}
    (kept : ∀ value ∈ values, codec.Keeps given depth value) : codec.list.Keeps given (depth + 1) values := by
  constructor
  · exact list_reads fun value member => (kept value member).reads
  · intro held item member
    obtain ⟨value, present, rfl⟩ := List.mem_map.mp member
    exact (kept value present).readable held
  · intro held
    apply float_free_items_iff.mpr
    intro item member
    obtain ⟨value, present, rfl⟩ := List.mem_map.mp member
    exact (kept value present).floatFree held

end Scalars

section Objects

variable {given : Prop} {depth : Nat} {members : List (String × Json)}

theorem of_members_readable (distinct : (members.map (·.1)).Nodup)
    (readable : ∀ entry ∈ members, entry.2.Readable depth) : (ofMembers members).Readable (depth + 1) :=
  ⟨Entries.sorted_ofList members,
    fun entry member => readable entry ((Entries.perm_ofList distinct).subset member)⟩

theorem of_members_float_free (distinct : (members.map (·.1)).Nodup)
    (floatFree : ∀ entry ∈ members, entry.2.FloatFree) : (ofMembers members).FloatFree :=
  float_free_members_iff.mpr fun entry member =>
    floatFree entry ((Entries.perm_ofList distinct).subset member)

theorem find_of_members (distinct : (members.map (·.1)).Nodup) {entry : String × Json} (member : entry ∈ members) :
    Entries.find? entry.1 (Entries.ofList members) = some entry.2 :=
  Entries.find_of_mem (Entries.sorted_ofList members) ((Entries.perm_ofList distinct).symm.subset member)

end Objects

section Tables

variable {given : Prop} {depth : Nat} {κ α : Type} {write : κ → String} {read : String → Except DecodeError κ}
  {codec : Codec α}

def writtenRow (write : κ → String) (codec : Codec α) (entry : κ × α) : String × Json :=
  (write entry.1, codec.encode entry.2)

theorem table_entries_read {members : List (String × Json)} {entries : List (κ × α)}
    (back : ∀ key, read (write key) = .ok key)
    (reads : ∀ entry ∈ entries, codec.decode (codec.encode entry.2) = .ok entry.2)
    (written : List.Forall₂ (fun member entry => member = writtenRow write codec entry) members entries) :
    tableEntries read codec members = .ok entries := by
  induction written with
  | nil => rfl
  | cons same _ ih =>
      obtain ⟨first, later⟩ := List.forall_mem_cons.mp reads
      simp [same, writtenRow, tableEntries, back, first, ih later, bind, Except.bind]

variable [Ord κ] [Std.LawfulEqOrd κ]

theorem written_keys_distinct (codec : Codec α) (table : Table κ α) (back : ∀ key, read (write key) = .ok key) :
    ((table.entries.map (writtenRow write codec)).map (·.1)).Nodup := by
  have injective : Function.Injective write := by
    intro first second same
    have again := back first
    rw [same, back second] at again
    exact (Except.ok.inj again).symm
  have keys := (Entries.distinct_keys table.sorted).map injective
  simpa [writtenRow, Function.comp_def] using keys

variable [Std.TransOrd κ]

-- The members are written in the order of their texts, which need not be the order of the keys: -2 is before -1, but
-- its text is after that of -1. So the entries that are read are those of the table in another order.
theorem table_reads {table : Table κ α} (back : ∀ key, read (write key) = .ok key)
    (reads : ∀ entry ∈ table.entries, codec.decode (codec.encode entry.2) = .ok entry.2) :
    (Codec.table write read codec).decode ((Codec.table write read codec).encode table) = .ok table := by
  have permuted := Entries.perm_ofList (written_keys_distinct codec table back)
  have rows : List.Forall₂ (fun member entry => member = writtenRow write codec entry)
      (table.entries.map (writtenRow write codec)) table.entries := by simp
  obtain ⟨entries, written, same⟩ := List.perm_comp_forall₂ permuted rows
  have found : tableEntries read codec (Entries.ofList (table.entries.map (writtenRow write codec))) = .ok entries :=
    table_entries_read back (fun entry member => reads entry (same.subset member)) written
  have keys : (entries.map (·.1)).Nodup := (same.map _).nodup_iff.mpr (Entries.distinct_keys table.sorted)
  have again : Entries.ofList entries = table.entries :=
    Entries.eq_of_perm (Entries.sorted_ofList entries) table.sorted ((Entries.perm_ofList keys).trans same)
  have decoded : (Codec.table write read codec).decode ((Codec.table write read codec).encode table) =
      (tableEntries read codec (Entries.ofList (table.entries.map (writtenRow write codec)))).map Table.ofList := rfl
  rw [decoded, found, Except.map]
  exact congrArg Except.ok (Table.ext_entries again)

theorem table_keeps {table : Table κ α} (back : ∀ key, read (write key) = .ok key)
    (kept : ∀ entry ∈ table.entries, codec.Keeps given depth entry.2) :
    (Codec.table write read codec).Keeps given (depth + 1) table := by
  have distinct := written_keys_distinct codec table back
  constructor
  · exact table_reads back fun entry member => (kept entry member).reads
  · intro held
    apply of_members_readable distinct
    intro member present
    obtain ⟨entry, listed, rfl⟩ := List.mem_map.mp present
    exact (kept entry listed).readable held
  · intro held
    apply of_members_float_free distinct
    intro member present
    obtain ⟨entry, listed, rfl⟩ := List.mem_map.mp present
    exact (kept entry listed).floatFree held

end Tables

section IntegerKeys

variable {value : Json} {key : Int64}

theorem negative_key {digits : List Char} (number : Scan.number true digits = .ok (value, []))
    (decoded : int64.decode value = .ok key) : integerKey (String.ofList ('-' :: digits)) = .ok key := by
  simp [integerKey, number, decoded]

theorem natural_key {c : Char} {digits : List Char} (digit : c.isDigit = true)
    (number : Scan.number false (c :: digits) = .ok (value, [])) (decoded : int64.decode value = .ok key) :
    integerKey (String.ofList (c :: digits)) = .ok key := by
  have noMinus : c ≠ '-' := by rintro rfl; cases digit
  simp [integerKey, noMinus, Scan.startsWithDigit, digit, number, decoded]

theorem integer_key_read (key : Int64) : integerKey (Text.Decimal.ofInt64 key) = .ok key := by
  have low := Int64.le_toInt key
  have high := Int64.toInt_lt key
  have decoded : int64.decode (.int key.toInt) = .ok key := (int64_keeps key : int64.Keeps True 0 key).reads
  have ends : Scan.Stops [] := trivial
  rw [Text.Decimal.ofInt64]
  cases size : key.toInt with
  | ofNat n =>
      rw [size, Int.ofNat_eq_natCast] at decoded high
      have fits : n ≤ Scan.maxSignificand := by
        rw [Scan.maxSignificand]
        omega
      have number : Scan.number false (Text.Decimal.ofNat n ++ []) = .ok (.int n, []) :=
        Scan.number_printed false fits ends
      obtain ⟨c, digits, printed, digit⟩ := Scan.printed_starts n
      rw [List.append_nil, printed] at number
      rw [Text.Decimal.ofInt, printed]
      exact natural_key digit number decoded
  | negSucc n =>
      rw [size] at decoded low
      have fits : n + 1 ≤ Scan.maxSignificand := by
        rw [Scan.maxSignificand]
        omega
      have within : ¬(n + 1 = 0 ∨ 9223372036854775808 < n + 1) := by omega
      have number : Scan.number true (Text.Decimal.ofNat (n + 1) ++ []) = .ok (.int (.negSucc n), []) := by
        rw [Scan.number_printed true fits ends, Scan.wholeNumber, if_pos rfl, if_neg within]
        rfl
      rw [List.append_nil] at number
      exact negative_key number decoded

end IntegerKeys

section Records

variable {given : Prop} {depth : Nat} {σ α β : Type} {fields : Fields σ α} {record : σ} {made : α}

-- What the first fields of a record keep: the members written for them are checked, and the value that awaits the
-- other fields is made again from any members among which those are.
structure Fields.Keep (fields : Fields σ α) (given : Prop) (depth : Nat) (record : σ) (made : α) : Prop where
  names : (fields.write record).map (·.1) = fields.names
  checks : fields.names.Nodup → ∀ entry ∈ fields.write record, fields.check entry.1 entry.2 = .ok ()
  makes : ∀ members, (∀ entry ∈ fields.write record, Entries.find? entry.1 members = some entry.2) →
    fields.fromMembers members = .ok made
  readable : given → ∀ entry ∈ fields.write record, entry.2.Readable depth
  floatFree : given → ∀ entry ∈ fields.write record, entry.2.FloatFree

namespace Fields.Keep

theorem start (record : σ) (make : α) : (Fields.start make : Fields σ α).Keep given depth record make :=
  ⟨rfl, nofun, fun _ _ => rfl, nofun, nofun⟩

theorem fieldOr {fields : Fields σ (β → α)} {make : β → α} {name : String} {get : σ → β} {codec : Codec β}
    {absent fallback : Option β} (before : fields.Keep given depth record make)
    (kept : codec.Keeps given depth (get record)) :
    (fields.fieldOr name get codec absent fallback).Keep given depth record (make (get record)) := by
  have written : (fields.fieldOr name get codec absent fallback).write record =
    fields.write record ++ [(name, codec.encode (get record))] := rfl
  constructor
  · rw [written, List.map_append, before.names]
    rfl
  · intro distinct entry member
    obtain ⟨earlier, _, apart⟩ := List.nodup_append.mp distinct
    rw [written] at member
    rcases List.mem_append.mp member with old | new
    · have present : entry.1 ∈ fields.names := before.names ▸ List.mem_map.mpr ⟨entry, old, rfl⟩
      have other : entry.1 ≠ name := apart entry.1 present name List.mem_cons_self
      simp only [Fields.fieldOr, if_neg other]
      exact before.checks earlier entry old
    · obtain rfl := List.mem_singleton.mp new
      simp [Fields.fieldOr, kept.reads, Except.map]
  · intro members found
    rw [written] at found
    have earlier := before.makes members fun entry member => found entry (List.mem_append_left _ member)
    have own : Entries.find? name members = some (codec.encode (get record)) :=
      found (name, codec.encode (get record)) (by simp)
    simp [Fields.fieldOr, earlier, own, kept.reads, bind, Except.bind, pure, Except.pure]
  · intro held
    rw [written]
    exact List.forall_mem_append.mpr ⟨before.readable held, by simpa using kept.readable held⟩
  · intro held
    rw [written]
    exact List.forall_mem_append.mpr ⟨before.floatFree held, by simpa using kept.floatFree held⟩

theorem flatten {fields : Fields σ (β → α)} {make : β → α} {part : Fields β β} {get : σ → β}
    (before : fields.Keep given depth record make) (kept : part.Keep given depth (get record) (get record)) :
    (fields.flatten part get).Keep given depth record (make (get record)) := by
  have written : (fields.flatten part get).write record = fields.write record ++ part.write (get record) := rfl
  constructor
  · rw [written, List.map_append, before.names, kept.names]
    rfl
  · intro distinct entry member
    obtain ⟨earlier, own, apart⟩ := List.nodup_append.mp distinct
    rw [written] at member
    rcases List.mem_append.mp member with old | new
    · have present : entry.1 ∈ fields.names := before.names ▸ List.mem_map.mpr ⟨entry, old, rfl⟩
      have other : entry.1 ∉ part.names := fun inner => apart entry.1 present entry.1 inner rfl
      simp only [Fields.flatten, List.contains_eq_mem, other, decide_false]
      exact before.checks earlier entry old
    · have inner : entry.1 ∈ part.names := kept.names ▸ List.mem_map.mpr ⟨entry, new, rfl⟩
      simp only [Fields.flatten, List.contains_eq_mem, inner, decide_true, if_true]
      exact kept.checks own entry new
  · intro members found
    rw [written] at found
    obtain ⟨old, new⟩ := List.forall_mem_append.mp found
    simp [Fields.flatten, before.makes members old, kept.makes members new, bind, Except.bind, pure, Except.pure]
  · intro held
    rw [written]
    exact List.forall_mem_append.mpr ⟨before.readable held, kept.readable held⟩
  · intro held
    rw [written]
    exact List.forall_mem_append.mpr ⟨before.floatFree held, kept.floatFree held⟩

end Fields.Keep

theorem members_checked {check : String → Json → Except DecodeError Unit} {members : List (String × Json)}
    (checks : ∀ entry ∈ members, check entry.1 entry.2 = .ok ()) : checkMembers check members = .ok () := by
  induction members with
  | nil => rfl
  | cons entry rest ih =>
      obtain ⟨first, later⟩ := List.forall_mem_cons.mp checks
      simp [checkMembers, first, ih later, bind, Except.bind]

theorem record_keeps {fields : Fields σ σ} {name : String} (distinct : fields.names.Nodup)
    (kept : fields.Keep given depth record record) : (Codec.record name fields).Keeps given (depth + 1) record := by
  have keys : ((fields.write record).map (·.1)).Nodup := kept.names ▸ distinct
  have checked : checkMembers fields.check (Entries.ofList (fields.write record)) = .ok () :=
    members_checked fun entry member =>
      kept.checks distinct entry ((Entries.perm_ofList keys).subset member)
  have made : fields.fromMembers (Entries.ofList (fields.write record)) = .ok record :=
    kept.makes _ fun entry member => find_of_members keys member
  constructor
  · simp [Codec.record, ofMembers, checked, made, bind, Except.bind]
  · exact fun held => of_members_readable keys (kept.readable held)
  · exact fun held => of_members_float_free keys (kept.floatFree held)

end Records

end Delivery.Codec
