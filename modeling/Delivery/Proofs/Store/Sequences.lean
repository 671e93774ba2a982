import Delivery.Proofs.Store.Ranks
import Delivery.Rehearsal.Samples
set_option autoImplicit false

namespace Delivery.Store

section Numbers

variable {kind : EntityKind} {α : Type} {name : α → Id kind}

def idsFrom (count size : Nat) : List (Id kind) :=
  (List.range' count size).map Id.nth

def insertAll (name : α → Id kind) (rows : List α) (table : Table (Id kind) α) : Table (Id kind) α :=
  rows.foldl (fun table row => table.insert (name row) row) table

structure Numbers (name : α → Id kind) (rows : List α) (before after : Table (Id kind) α) (count later : Nat) :
    Prop where
  ids : rows.map name = idsFrom count rows.length
  counted : later = count + rows.length
  table : after = insertAll name rows before

theorem ids_from_append (count first second : Nat) :
    (idsFrom count first : List (Id kind)) ++ idsFrom (count + first) second = idsFrom count (first + second) := by
  rw [idsFrom, idsFrom, ← List.map_append, List.range'_append_1]
  rfl

theorem mem_ids_from {key : Id kind} {count size : Nat} :
    key ∈ idsFrom count size ↔ ∃ place, (count ≤ place ∧ place < count + size) ∧ Id.nth place = key := by
  simp only [idsFrom, List.mem_map, List.mem_range'_1]

theorem ids_from_ascending {count size : Nat} (room : count + size < Id.capacity) :
    (idsFrom count size : List (Id kind)).Pairwise fun earlier later => earlier.raw < later.raw := by
  refine List.pairwise_map.mpr (.imp_of_mem (fun {earlier later} _ bound before => ?_) List.pairwise_lt_range')
  have within : later < count + size := (List.mem_range'_1.mp bound).2
  have less : compare (Id.nth earlier : Id kind) (Id.nth later) = .lt := Id.nth_before before (by omega)
  rwa [Id.compare_eq, Std.compare_eq_lt] at less

theorem ids_from_nodup {count size : Nat} (room : count + size < Id.capacity) :
    (idsFrom count size : List (Id kind)).Nodup :=
  (ids_from_ascending room).imp fun less same => Int64.ne_of_lt less (congrArg Id.raw same)

theorem not_in_ids_from {place count size : Nat} (before : place < count) (room : count + size < Id.capacity) :
    (Id.nth place : Id kind) ∉ idsFrom count size := by
  intro member
  obtain ⟨later, ⟨above, bound⟩, same⟩ := mem_ids_from.mp member
  exact Id.nth_different (Nat.lt_of_lt_of_le before above) (by omega) same.symm

theorem get_insert_all_other (rows : List α) (table : Table (Id kind) α) {key : Id kind}
    (other : key ∉ rows.map name) : (insertAll name rows table).get? key = table.get? key := by
  induction rows generalizing table with
  | nil => rfl
  | cons row rest ih =>
      obtain ⟨different, later⟩ := List.ne_and_not_mem_of_not_mem_cons other
      exact (ih _ later).trans (Table.get_insert_other _ _ different)

theorem get_insert_all_mem {rows : List α} (table : Table (Id kind) α) (distinct : (rows.map name).Nodup) {row : α}
    (member : row ∈ rows) : (insertAll name rows table).get? (name row) = some row := by
  induction rows generalizing table with
  | nil => cases member
  | cons first rest ih =>
      obtain ⟨apart, others⟩ := List.nodup_cons.mp distinct
      rcases List.mem_cons.mp member with rfl | later
      · exact (get_insert_all_other rest _ apart).trans (Table.get_insert_same _ _ _)
      · exact ih _ others later

variable {rows : List α} {row : α} {before after : Table (Id kind) α} {count later : Nat}

theorem numbers_nil (table : Table (Id kind) α) (count : Nat) : Numbers name [] table table count count :=
  ⟨rfl, rfl, rfl⟩

theorem numbers_cons (named : name row = Id.nth count)
    (rest : Numbers name rows (before.insert (name row) row) after (count + 1) later) :
    Numbers name (row :: rows) before after count later := by
  refine ⟨congrArg₂ List.cons named rest.ids, ?_, rest.table⟩
  rw [rest.counted, List.length_cons]
  omega

theorem numbers_one (named : name row = Id.nth count) :
    Numbers name [row] before (before.insert (name row) row) count (count + 1) :=
  numbers_cons named (numbers_nil _ _)

theorem numbers_here (numbers : Numbers name rows before after count later) (room : later < Id.capacity)
    (member : row ∈ rows) : after.get? (name row) = some row := by
  rw [numbers.table]
  refine get_insert_all_mem before ?_ member
  rw [numbers.ids]
  exact ids_from_nodup (numbers.counted ▸ room)

theorem numbers_elsewhere (numbers : Numbers name rows before after count later) {key : Id kind}
    (other : key ∉ rows.map name) : after.get? key = before.get? key := by
  rw [numbers.table]
  exact get_insert_all_other rows before other

theorem map_rows_id (table : Table (Id kind) α) : (table.mapRows fun _ => id) = table :=
  Table.ext_entries (List.map_id _)

end Numbers

theorem insert_artifacts_numbers (store : Store) (artifacts : List NewArtifact) :
    Numbers (·.id) (store.insertArtifacts artifacts).1 store.artifacts (store.insertArtifacts artifacts).2.artifacts
      store.artifactCount (store.insertArtifacts artifacts).2.artifactCount := by
  induction artifacts generalizing store with
  | nil => exact numbers_nil _ _
  | cons artifact rest ih => exact numbers_cons rfl (ih (store.insertArtifact artifact).2)

theorem append_histories_numbers (store : Store) (rows : List NewHistory) :
    Numbers (·.id) (store.appendHistories rows).1 store.history (store.appendHistories rows).2.history
      store.historyCount (store.appendHistories rows).2.historyCount := by
  induction rows generalizing store with
  | nil => exact numbers_nil _ _
  | cons row rest ih => exact numbers_cons rfl (ih (store.appendHistory row).2)

inductive Sequence where
  | artifacts
  | charts
  | overrides
  | history
  deriving DecidableEq

def answered {α : Type} (outcome : Except Error (α × Store)) : List α :=
  (outcome.map (·.1)).toOption.toList

namespace Sequence

abbrev kind : Sequence → EntityKind
  | .artifacts => .artifact
  | .charts => .chart
  | .overrides => .envOverride
  | .history => .deploymentTemplateHistory

abbrev Row : Sequence → Type
  | .artifacts => Artifact
  | .charts => Chart
  | .overrides => EnvOverride
  | .history => History

def name : (sequence : Sequence) → sequence.Row → Id sequence.kind
  | .artifacts => Artifact.id
  | .charts => Chart.id
  | .overrides => EnvOverride.id
  | .history => History.id

def table : (sequence : Sequence) → Store → Table (Id sequence.kind) sequence.Row
  | .artifacts => Store.artifacts
  | .charts => Store.charts
  | .overrides => Store.envOverrides
  | .history => Store.history

def count : Sequence → Store → Nat
  | .artifacts => Store.artifactCount
  | .charts => Store.chartCount
  | .overrides => Store.envOverrideCount
  | .history => Store.historyCount

def stored : (sequence : Sequence) → Store → Write → List sequence.Row
  | .artifacts, store, .saveArtifact artifact => answered (store.saveArtifact artifact)
  | .artifacts, store, .saveArtifacts batch => (answered (store.saveArtifacts batch)).flatten
  | .artifacts, store, .saveArtifactOfWorkflow artifact id now =>
      answered (store.saveArtifactOfWorkflow artifact id now)
  | .charts, store, .createChart chart => answered (store.createChart chart)
  | .overrides, store, .createOverride override => answered (store.createOverride override)
  | .history, store, .appendHistory row => [(store.appendHistory row).1]
  | .history, store, .appendHistories rows => (store.appendHistories rows).1
  | _, _, _ => []

def beside : (sequence : Sequence) → Store → Write → sequence.Row → sequence.Row
  | .charts, store, .createChart new => besideLatest new.appId (Id.nth store.chartCount)
  | .overrides, store, .createOverride new =>
      match store.charts.get? new.chartId with
      | none => id
      | some chart =>
          besideOverride store chart.appId new.targetEnvironment (Id.nth store.envOverrideCount)
  | _, _, _ => id

def ButFlags : (sequence : Sequence) → sequence.Row → sequence.Row → Prop
  | .charts, first, second => second = { first with latest := second.latest, previous := second.previous }
  | .overrides, first, second => SameButFlags first second
  | _, first, second => second = first

inductive Step (sequence : Sequence) (before : Store) (write : Write) (after : Store) : Prop where
  -- It stores no row, and no key comes to the table.
  | keeps (nothing : sequence.stored before write = []) (counted : sequence.count after = sequence.count before)
      (within : ∀ {key}, (sequence.table before).get? key = none → (sequence.table after).get? key = none) :
      Step sequence before write after
  | adds (numbers : Numbers sequence.name (sequence.stored before write)
      ((sequence.table before).mapRows fun _ => sequence.beside before write) (sequence.table after)
      (sequence.count before) (sequence.count after)) : Step sequence before write after

theorem beside_flags (sequence : Sequence) (store : Store) (write : Write) (row : sequence.Row) :
    sequence.ButFlags row (sequence.beside store write row) := by
  unfold beside
  split
  case h_1 new =>
      show besideLatest new.appId (Id.nth store.chartCount) row = _
      unfold besideLatest
      split <;> rfl
  case h_2 new =>
      cases store.charts.get? new.chartId with
      | none => exact same_but_flags_refl row
      | some chart => exact beside_override_flags _ _ _ _ row
  case h_3 => cases sequence <;> rfl

end Sequence

def Write.sequence? : Write → Option Sequence
  | .saveArtifact _ | .saveArtifacts _ | .saveArtifactOfWorkflow _ _ _ | .deleteArtifact _ => some .artifacts
  | .createChart _ | .updateChart _ => some .charts
  | .createOverride _ => some .overrides
  | .appendHistory _ | .appendHistories _ => some .history
  | _ => none

section Steps

variable {sequence : Sequence} {before after : Store} {write : Write}

theorem answered_ok {α : Type} {outcome : Except Error (α × Store)} {result : α}
    (done : outcome = .ok (result, after)) : answered outcome = [result] := by
  rw [done]
  rfl

theorem answered_refused {α : Type} {outcome : Except Error (α × Store)} {error : Error}
    (refused : outcome.map (·.2) = .error error) : answered outcome = [] := by
  cases outcome with
  | error _ => rfl
  | ok _ => cases refused

theorem stored_refused {error : Error} (refused : write.act before = .error error) :
    sequence.stored before write = [] := by
  unfold Sequence.stored
  split
  case h_2 => exact congrArg List.flatten (answered_refused refused)
  case h_6 => cases refused
  case h_7 => cases refused
  case h_8 => rfl
  all_goals exact answered_refused refused

theorem stored_elsewhere (other : write.sequence? ≠ some sequence) : sequence.stored before write = [] := by
  unfold Sequence.stored
  split
  case h_8 => rfl
  all_goals exact absurd rfl other

theorem inserted_elsewhere {artifacts : List NewArtifact} {rows : List Artifact}
    (inserted : before.insertArtifacts artifacts = (rows, after)) (other : sequence ≠ .artifacts) :
    sequence.table after = sequence.table before ∧ sequence.count after = sequence.count before := by
  obtain ⟨_, rfl⟩ := inserted_parts inserted
  rw [insert_artifacts_only before artifacts]
  cases sequence with
  | artifacts => exact absurd rfl other
  | _ => exact ⟨rfl, rfl⟩

theorem write_elsewhere (done : write.act before = .ok after) (other : write.sequence? ≠ some sequence) :
    sequence.table after = sequence.table before ∧ sequence.count after = sequence.count before := by
  cases write with
  | insertWorkflow workflow =>
      obtain ⟨_, made⟩ := made_of_map done
      rw [insert_workflow_ok made]
      cases sequence <;> exact ⟨rfl, rfl⟩
  | updateWorkflow workflow =>
      obtain ⟨_, made⟩ := made_of_map done
      rw [update_workflow_ok made]
      cases sequence <;> exact ⟨rfl, rfl⟩
  | saveArtifact artifact =>
      obtain ⟨_, made⟩ := made_of_map done
      exact inserted_elsewhere (inserted_single (save_artifact_ok made).2) fun same => other (congrArg some same.symm)
  | saveArtifacts artifacts =>
      obtain ⟨_, made⟩ := made_of_map done
      exact inserted_elsewhere (save_artifacts_ok made) fun same => other (congrArg some same.symm)
  | saveArtifactOfWorkflow artifact id now =>
      obtain ⟨_, made⟩ := made_of_map done
      obtain ⟨_, workflow, _, _, inserted⟩ := save_artifact_of_workflow_ok made
      have apart := inserted_elsewhere (inserted_single inserted) fun same => other (congrArg some same.symm)
      cases sequence <;> exact apart
  | deleteArtifact id =>
      obtain ⟨_, made⟩ := made_of_map done
      rw [delete_artifact_ok made]
      cases sequence with
      | artifacts => exact absurd rfl other
      | _ => exact ⟨rfl, rfl⟩
  | createChart chart =>
      obtain ⟨_, made⟩ := made_of_map done
      obtain ⟨_, _, rfl⟩ := create_chart_ok made
      cases sequence with
      | charts => exact absurd rfl other
      | _ => exact ⟨rfl, rfl⟩
  | updateChart chart =>
      obtain ⟨_, made⟩ := made_of_map done
      obtain ⟨_, _, _, rfl⟩ := update_chart_ok made
      cases sequence with
      | charts => exact absurd rfl other
      | _ => exact ⟨rfl, rfl⟩
  | createOverride override =>
      obtain ⟨_, made⟩ := made_of_map done
      obtain ⟨_, _, _, rfl⟩ := create_override_ok made
      cases sequence with
      | overrides => exact absurd rfl other
      | _ => exact ⟨rfl, rfl⟩
  | appendHistory row =>
      obtain rfl := Except.ok.inj done
      cases sequence with
      | history => exact absurd rfl other
      | _ => exact ⟨rfl, rfl⟩
  | appendHistories rows =>
      obtain rfl := Except.ok.inj done
      rw [append_histories_only before rows]
      cases sequence with
      | history => exact absurd rfl other
      | _ => exact ⟨rfl, rfl⟩
  | insertRunner run =>
      obtain ⟨_, made⟩ := made_of_map done
      rw [insert_runner_ok made]
      cases sequence <;> exact ⟨rfl, rfl⟩
  -- All others are never refused, and none of them writes a numbered table.
  | _ =>
      obtain rfl := Except.ok.inj done
      cases sequence <;> exact ⟨rfl, rfl⟩

theorem adds_plainly (plain : sequence.beside before write = id)
    (numbers : Numbers sequence.name (sequence.stored before write) (sequence.table before) (sequence.table after)
      (sequence.count before) (sequence.count after)) : sequence.Step before write after := by
  refine .adds ?_
  rw [plain, map_rows_id]
  exact numbers

theorem inserted_step {middle : Store} {artifacts : List NewArtifact} {rows : List Artifact}
    (inserted : middle.insertArtifacts artifacts = (rows, after)) (table : middle.artifacts = before.artifacts)
    (count : middle.artifactCount = before.artifactCount)
    (stored : Sequence.artifacts.stored before write = rows) : Sequence.artifacts.Step before write after := by
  have numbers := insert_artifacts_numbers middle artifacts
  rw [inserted, table, count] at numbers
  refine adds_plainly rfl ?_
  rw [stored]
  exact numbers

theorem created_step {new : NewChart} {row : Chart} (done : before.createChart new = .ok (row, after)) :
    Sequence.charts.Step before (.createChart new) after := by
  have stored : Sequence.charts.stored before (.createChart new) = [row] := answered_ok done
  obtain ⟨rowEq, _, rfl⟩ := create_chart_ok done
  have named : row.id = Id.nth before.chartCount := by rw [rowEq]; rfl
  refine .adds ?_
  rw [stored, Sequence.beside, ← named]
  exact numbers_one named

theorem updated_step {chart row : Chart} (done : before.updateChart chart = .ok (row, after)) :
    Sequence.charts.Step before (.updateChart chart) after := by
  obtain ⟨current, found, _⟩ := update_chart_ok done
  have counted : after.chartCount = before.chartCount := by
    obtain ⟨_, _, _, rfl⟩ := update_chart_ok done
    rfl
  refine .keeps rfl counted fun {key} absent => ?_
  -- The chart that is put was there, so a key that was not is another one.
  have different : key ≠ chart.id := by
    rintro rfl
    cases found.symm.trans absent
  rcases updated_elsewhere done different with same | beside
  · exact same.trans absent
  · exact beside.trans (congrArg _ absent)

theorem override_step {new : NewEnvOverride} {row : EnvOverride}
    (done : before.createOverride new = .ok (row, after)) :
    Sequence.overrides.Step before (.createOverride new) after := by
  have stored : Sequence.overrides.stored before (.createOverride new) = [row] := answered_ok done
  obtain ⟨chart, found, rowEq, rfl⟩ := create_override_ok done
  have named : row.id = Id.nth before.envOverrideCount := by rw [rowEq]; rfl
  refine .adds ?_
  simp only [Sequence.beside, found]
  rw [stored, ← named]
  exact numbers_one named

theorem deleted_step {id : ArtifactId} (done : before.deleteArtifact id = .ok ((), after)) :
    Sequence.artifacts.Step before (.deleteArtifact id) after := by
  obtain rfl := delete_artifact_ok done
  refine .keeps rfl rfl fun {key} absent => ?_
  cases found : (before.artifacts.erase id).get? key with
  | none => exact found
  | some row => cases absent.symm.trans (Table.get_of_erase found)

theorem write_step (done : write.act before = .ok after) : sequence.Step before write after := by
  by_cases own : write.sequence? = some sequence
  · cases write with
    | saveArtifact artifact =>
        obtain rfl := Option.some.inj own
        obtain ⟨row, made⟩ := made_of_map done
        exact inserted_step (inserted_single (save_artifact_ok made).2) rfl rfl (answered_ok made)
    | saveArtifacts batch =>
        obtain rfl := Option.some.inj own
        obtain ⟨rows, made⟩ := made_of_map done
        refine inserted_step (save_artifacts_ok made) rfl rfl ?_
        exact (congrArg List.flatten (answered_ok made)).trans (List.append_nil rows)
    | saveArtifactOfWorkflow artifact id now =>
        obtain rfl := Option.some.inj own
        obtain ⟨row, made⟩ := made_of_map done
        obtain ⟨_, workflow, _, _, inserted⟩ := save_artifact_of_workflow_ok made
        exact inserted_step (inserted_single inserted) rfl rfl (answered_ok made)
    | deleteArtifact id =>
        obtain rfl := Option.some.inj own
        obtain ⟨_, made⟩ := made_of_map done
        exact deleted_step made
    | createChart new =>
        obtain rfl := Option.some.inj own
        obtain ⟨_, made⟩ := made_of_map done
        exact created_step made
    | updateChart chart =>
        obtain rfl := Option.some.inj own
        obtain ⟨_, made⟩ := made_of_map done
        exact updated_step made
    | createOverride new =>
        obtain rfl := Option.some.inj own
        obtain ⟨_, made⟩ := made_of_map done
        exact override_step made
    | appendHistory row =>
        obtain rfl := Option.some.inj own
        obtain rfl := Except.ok.inj done
        exact adds_plainly rfl (numbers_one rfl)
    | appendHistories rows =>
        obtain rfl := Option.some.inj own
        obtain rfl := Except.ok.inj done
        exact adds_plainly rfl (append_histories_numbers before rows)
    | _ => cases own
  · obtain ⟨table, count⟩ := write_elsewhere done own
    exact .keeps (stored_elsewhere own) count fun absent => table ▸ absent

theorem perform_step (sequence : Sequence) (store : Store) (write : Write) :
    sequence.Step store write (write.perform store) := by
  rw [Write.perform]
  cases done : write.act store with
  | error error => exact .keeps (stored_refused done) rfl id
  | ok after => exact write_step done

theorem step_ids (step : sequence.Step before write after) : (sequence.stored before write).map sequence.name =
    idsFrom (sequence.count before) (sequence.stored before write).length := by
  cases step with
  | keeps nothing _ _ =>
      rw [nothing]
      rfl
  | adds numbers => exact numbers.ids

theorem step_count (step : sequence.Step before write after) :
    sequence.count after = sequence.count before + (sequence.stored before write).length := by
  cases step with
  | keeps nothing counted _ =>
      rw [nothing]
      exact counted
  | adds numbers => exact numbers.counted

theorem step_here (step : sequence.Step before write after) (room : sequence.count after < Id.capacity)
    {row : sequence.Row} (member : row ∈ sequence.stored before write) :
    (sequence.table after).get? (sequence.name row) = some row := by
  cases step with
  | keeps nothing _ _ =>
      rw [nothing] at member
      cases member
  | adds numbers => exact numbers_here numbers room member

theorem step_others (step : sequence.Step before write after) (adds : sequence.stored before write ≠ [])
    {key : Id sequence.kind} (other : key ∉ (sequence.stored before write).map sequence.name) :
    (sequence.table after).get? key = ((sequence.table before).get? key).map (sequence.beside before write) := by
  cases step with
  | keeps nothing _ _ => exact absurd nothing adds
  | adds numbers => exact (numbers_elsewhere numbers other).trans (Table.get_map_rows _ _ _)

theorem step_absent (step : sequence.Step before write after) (room : sequence.count after < Id.capacity) {place : Nat}
    (given : place < sequence.count before) (absent : (sequence.table before).get? (Id.nth place) = none) :
    (sequence.table after).get? (Id.nth place) = none := by
  have counted := step_count step
  have other : Id.nth place ∉ (sequence.stored before write).map sequence.name := by
    rw [step_ids step]
    exact not_in_ids_from given (counted ▸ room)
  cases step with
  | keeps _ _ within => exact within absent
  | adds numbers =>
      rw [numbers_elsewhere numbers other, Table.get_map_rows, absent]
      rfl

end Steps

theorem reachable_filed {store : Store} (reached : Reachable store) (sequence : Sequence) :
    Filed sequence.name (sequence.table store) (sequence.count store) := by
  cases sequence with
  | artifacts => exact (reachable_orderly reached).artifacts
  | charts => exact (reachable_orderly reached).charts
  | overrides => exact (reachable_rooted reached).overrides
  | history => exact reachable_in_order reached

def performAll (store : Store) (writes : List Write) : Store :=
  writes.foldl Write.perform store

namespace Sequence

def issued (sequence : Sequence) : Store → List Write → List (Id sequence.kind)
  | _, [] => []
  | store, write :: rest =>
      (sequence.stored store write).map sequence.name ++ sequence.issued (write.perform store) rest

structure Inserts (sequence : Sequence) (store : Store) (write : Write) : Prop where
  free : ∀ row ∈ sequence.stored store write, (sequence.table store).get? (sequence.name row) = none
  here : ∀ row ∈ sequence.stored store write,
    (sequence.table (write.perform store)).get? (sequence.name row) = some row
  others : sequence.stored store write ≠ [] → ∀ key, key ∉ (sequence.stored store write).map sequence.name →
    (sequence.table (write.perform store)).get? key =
      ((sequence.table store).get? key).map (sequence.beside store write)
  flags : ∀ row, sequence.ButFlags row (sequence.beside store write row)

structure NeverReuses (sequence : Sequence) (writes : List Write) : Prop where
  counted : sequence.count (performAll .empty writes) = (sequence.issued .empty writes).length
  ascending : (sequence.issued .empty writes).Pairwise fun earlier later => earlier.raw < later.raw
  own : ∀ {key row}, (sequence.table (performAll .empty writes)).get? key = some row → sequence.name row = key ∧
    1 ≤ key.raw.toInt ∧ key.raw.toInt ≤ sequence.count (performAll .empty writes)
  inserts : ∀ {front write back}, writes = front ++ write :: back → sequence.Inserts (performAll .empty front) write
  gone : ∀ {front back id}, writes = front ++ back → id ∈ sequence.issued .empty front →
    (sequence.table (performAll .empty front)).get? id = none →
    (sequence.table (performAll .empty writes)).get? id = none

end Sequence

section Run

variable {sequence : Sequence} {store : Store} {writes front back : List Write}

theorem perform_all_append (store : Store) (front back : List Write) :
    performAll store (front ++ back) = performAll (performAll store front) back :=
  List.foldl_append

theorem perform_all_reachable (reached : Reachable store) (writes : List Write) :
    Reachable (performAll store writes) := by
  induction writes generalizing store with
  | nil => exact reached
  | cons write rest ih => exact ih (perform_reachable reached write)

theorem issued_count (sequence : Sequence) (store : Store) (writes : List Write) :
    sequence.count (performAll store writes) = sequence.count store + (sequence.issued store writes).length := by
  induction writes generalizing store with
  | nil => rfl
  | cons write rest ih =>
      have later := ih (write.perform store)
      rw [step_count (perform_step sequence store write)] at later
      rw [Sequence.issued, List.length_append, List.length_map, ← Nat.add_assoc]
      exact later

theorem issued_ids (sequence : Sequence) (store : Store) (writes : List Write) : sequence.issued store writes =
    idsFrom (sequence.count store) (sequence.issued store writes).length := by
  induction writes generalizing store with
  | nil => rfl
  | cons write rest ih =>
      have step := perform_step sequence store write
      rw [Sequence.issued, List.length_append, List.length_map, ← ids_from_append, ← step_ids step,
        ← step_count step, ← ih]

theorem count_monotone (sequence : Sequence) (store : Store) (writes : List Write) :
    sequence.count store ≤ sequence.count (performAll store writes) := by
  rw [issued_count]
  exact Nat.le_add_right _ _

theorem absent_forever (sequence : Sequence) (room : sequence.count (performAll store writes) < Id.capacity)
    {place : Nat} (given : place < sequence.count store) (absent : (sequence.table store).get? (Id.nth place) = none) :
    (sequence.table (performAll store writes)).get? (Id.nth place) = none := by
  induction writes generalizing store with
  | nil => exact absent
  | cons write rest ih =>
      have step := perform_step sequence store write
      have grown := count_monotone sequence (write.perform store) rest
      have counted := step_count step
      refine ih room (by omega) (step_absent step ?_ given absent)
      exact Nat.lt_of_le_of_lt grown room

theorem perform_inserts (reached : Reachable store) (write : Write)
    (room : sequence.count (write.perform store) < Id.capacity) : sequence.Inserts store write := by
  have step := perform_step sequence store write
  have filed := reachable_filed reached sequence
  refine ⟨fun row member => ?_, fun row member => step_here step room member,
    fun adds key other => step_others step adds other, sequence.beside_flags store write⟩
  -- What is stored gets an identifier that is still to come, and those are free in every store that there can be.
  have named : sequence.name row ∈ idsFrom (sequence.count store) (sequence.stored store write).length :=
    step_ids step ▸ List.mem_map_of_mem member
  obtain ⟨place, ⟨later, bound⟩, same⟩ := mem_ids_from.mp named
  have counted := step_count step
  rw [← same]
  exact later_missing filed later (by omega)

theorem count_empty (sequence : Sequence) : sequence.count .empty = 0 := by
  cases sequence <;> rfl

theorem issued_from_empty (sequence : Sequence) (writes : List Write) :
    sequence.issued .empty writes = idsFrom 0 (sequence.count (performAll .empty writes)) := by
  rw [issued_count, count_empty, Nat.zero_add, ← count_empty sequence]
  exact issued_ids sequence .empty writes

theorem reachable_performed : Reachable store ↔ ∃ writes, performAll .empty writes = store := by
  constructor
  · intro reached
    induction reached with
    | empty => exact ⟨[], rfl⟩
    | step _ transaction ih =>
        obtain ⟨writes, rfl⟩ := ih
        obtain ⟨write, done⟩ := transaction_write transaction
        refine ⟨writes ++ [write], ?_⟩
        rw [perform_all_append]
        show write.perform _ = _
        rw [Write.perform, done]
        rfl
  · rintro ⟨writes, rfl⟩
    exact perform_all_reachable .empty writes

theorem never_reuses (room : sequence.count (performAll .empty writes) < Id.capacity) :
    sequence.NeverReuses writes := by
  have numbered := issued_from_empty sequence writes
  constructor
  case counted =>
    rw [issued_count, count_empty, Nat.zero_add]
  case ascending =>
    rw [numbered]
    exact ids_from_ascending (by omega)
  case own =>
    intro key row found
    have filed := reachable_filed (perform_all_reachable .empty writes) sequence
    obtain ⟨place, bound, rfl⟩ := filed.given found
    have raw : (Id.nth place : Id sequence.kind).raw.toInt = place + 1 := Id.raw_nth (by omega)
    exact ⟨filed.own found, by omega, by omega⟩
  case inserts =>
    rintro front write back rfl
    refine perform_inserts (perform_all_reachable .empty front) write ?_
    rw [perform_all_append] at room
    exact Nat.lt_of_le_of_lt (count_monotone sequence _ back) room
  case gone =>
    rintro front back id rfl issued absent
    rw [issued_from_empty] at issued
    obtain ⟨place, ⟨_, bound⟩, rfl⟩ := mem_ids_from.mp issued
    rw [perform_all_append] at room ⊢
    exact absent_forever sequence room (by omega) absent

theorem deleted_forever {id : ArtifactId} {after : Store} (room : (performAll after back).artifactCount < Id.capacity)
    (filed : ArtifactsFiled store) (done : store.deleteArtifact id = .ok ((), after)) :
    (performAll after back).artifacts.get? id = none := by
  have there : store.artifacts.contains id = true := by
    rw [deleteArtifact] at done
    split at done
    case isTrue there => exact there
    case isFalse => cases done
  obtain ⟨row, found⟩ := Option.isSome_iff_exists.mp there
  obtain ⟨place, bound, rfl⟩ := filed.given found
  obtain rfl := delete_artifact_ok done
  have absent : (store.artifacts.erase (Id.nth place)).get? (Id.nth place) = none := Table.get_erase_same _ _
  exact absent_forever .artifacts room bound absent

end Run

/-- Whatever is written, from the empty store on: the four tables number their rows by 1, 2, 3 and so on. Each row
stands under its own identifier; each that is given out is higher than all before it and names a free place; storing a
row changes no more of the others than their flags; and where an artifact was deleted there is never one again. -/
theorem identifiers_never_reused (writes : List Write)
    (room : ∀ sequence : Sequence, (sequence.issued .empty writes).length < Id.capacity) :
    (∀ sequence : Sequence, sequence.NeverReuses writes) ∧
      ∀ front id back after, writes = front ++ .deleteArtifact id :: back →
        (performAll .empty front).deleteArtifact id = .ok ((), after) →
        (performAll .empty writes).artifacts.get? id = none := by
  have bounded : ∀ sequence : Sequence, sequence.count (performAll .empty writes) < Id.capacity := by
    intro sequence
    rw [issued_count, count_empty, Nat.zero_add]
    exact room sequence
  refine ⟨fun sequence => never_reuses (bounded sequence), ?_⟩
  rintro front id back after rfl done
  have performed : Write.perform (performAll .empty front) (.deleteArtifact id) = after := by
    rw [Write.perform, Write.act, done]
    rfl
  have split : performAll .empty (front ++ .deleteArtifact id :: back) = performAll after back := by
    rw [perform_all_append, ← performed]
    rfl
  have filed := (reachable_orderly (perform_all_reachable .empty front)).artifacts
  rw [split]
  exact deleted_forever (split ▸ bounded .artifacts) filed done

def sampleWrites : List Write :=
  [.saveArtifact Sample.newArtifact, .insertWorkflow Sample.workflow,
    .saveArtifacts [Sample.newArtifact, Sample.newArtifact], .deleteArtifact ⟨3⟩,
    .saveArtifactOfWorkflow Sample.newArtifact ⟨1⟩ Sample.moment, .createChart Sample.newChart,
    .createChart { Sample.newChart with chartRefId := ⟨2⟩ }, .updateChart Sample.chart,
    .createOverride Sample.newEnvOverride, .createOverride Sample.newEnvOverride,
    .appendHistory Sample.history, .appendHistories [Sample.history, Sample.history]]

theorem sample_never_reused :
    Sequence.artifacts.issued .empty sampleWrites = [⟨1⟩, ⟨2⟩, ⟨3⟩, ⟨4⟩] ∧
      (∀ sequence : Sequence, (sequence.issued .empty sampleWrites).length < Id.capacity) ∧
      (∀ sequence : Sequence, sequence.NeverReuses sampleWrites) ∧
      (performAll .empty sampleWrites).artifacts.get? ⟨3⟩ = none := by
  have room : ∀ sequence : Sequence, (sequence.issued .empty sampleWrites).length < Id.capacity := by
    intro sequence
    cases sequence <;> decide +kernel
  obtain ⟨never, deleted⟩ := identifiers_never_reused sampleWrites room
  refine ⟨by decide +kernel, room, never, ?_⟩
  exact deleted (sampleWrites.take 3) ⟨3⟩ (sampleWrites.drop 4) _ rfl rfl

end Delivery.Store
