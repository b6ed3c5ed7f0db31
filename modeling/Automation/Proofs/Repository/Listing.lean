import Automation.Proofs.Repository.Rows

/-!
# Listings of triggers in tables

A listing gives the triggers of its rows, oldest first, and leaves out a row that holds none. A
configuration that is not JSON is no such row: it fails the listing, and the error names the first
row that has one.
-/

namespace Automation

open Store Json

namespace Store

namespace TriggerRow

/-- Created earlier, or at the same time with a smaller id. -/
def Before (a b : TriggerRow) : Prop :=
  a.createdAt < b.createdAt ∨ a.createdAt = b.createdAt ∧ a.id < b.id

/-- Created earlier, or at the same time with an id that is not greater. -/
def NoLater (a b : TriggerRow) : Prop :=
  a.createdAt < b.createdAt ∨ a.createdAt = b.createdAt ∧ a.id ≤ b.id

/-- The configuration is JSON. -/
def HasJson (row : TriggerRow) : Prop := (Value.read? row.config).isSome

private theorem NoLater.trans {a b c : TriggerRow} (hab : a.NoLater b) (hbc : b.NoLater c) :
    a.NoLater c := by
  rcases hab with hab | ⟨hab, hid⟩ <;> rcases hbc with hbc | ⟨hbc, hid'⟩
  · exact .inl (Int.lt_trans hab hbc)
  · exact .inl (hbc ▸ hab)
  · exact .inl (hab ▸ hbc)
  · exact .inr ⟨hab.trans hbc, String.le_trans hid hid'⟩

private theorem noLater_total (a b : TriggerRow) : a.NoLater b ∨ b.NoLater a := by
  rcases Int.lt_trichotomy a.createdAt b.createdAt with hlt | heq | hgt
  · exact .inl (.inl hlt)
  · have hid := String.le_total a.id b.id
    exact hid.imp (.inr ⟨heq, ·⟩) (.inr ⟨heq.symm, ·⟩)
  · exact .inr (.inl hgt)

private theorem noLater_iff {a b : TriggerRow} : (decide (a.createdAt < b.createdAt) ||
    (a.createdAt == b.createdAt && !decide (b.id < a.id))) = true ↔ a.NoLater b := by
  rw [Bool.or_eq_true, Bool.and_eq_true, decide_eq_true_iff, beq_iff_eq, Bool.not_eq_true',
    decide_eq_false_iff_not, String.not_lt]
  rfl

private theorem NoLater.before {a b : TriggerRow} (h : a.NoLater b) (hid : a.id ≠ b.id) :
    a.Before b :=
  h.imp_right fun ⟨heq, hle⟩ => ⟨heq, Std.lt_of_le_of_ne hle hid⟩

end TriggerRow

namespace Database

/-- The constraints on the table of triggers. Nothing is said of what the texts mean. -/
structure Lawful (db : Database) : Prop where
  migrated : db.migrated = true
  distinct : (db.triggers.map (·.id)).Nodup
  types : ∀ row ∈ db.triggers, row.type ∈ triggerTypes
  statuses : ∀ row ∈ db.triggers, row.status ∈ triggerStatuses
  parents : ∀ row ∈ db.triggers, ∃ w ∈ db.workflows, w.id = row.workflowId

/-- The rows that satisfy a condition, each once and oldest first. -/
structure Selects (db : Database) (p : TriggerRow → Bool) (rows : List TriggerRow) : Prop where
  mem_iff : ∀ row, row ∈ rows ↔ row ∈ db.triggers ∧ p row
  ordered : rows.Pairwise TriggerRow.Before

end Database

end Store

namespace Trigger

/-- The trigger that a row holds, if each of its columns can be read. -/
def ofStored? (row : TriggerRow) : Option Trigger := do
  let id ← Id.ofText? row.id
  let workflowId ← Id.ofText? row.workflowId
  let type ← TriggerType.ofText? row.type
  let config ← Value.read? row.config
  let status ← TriggerStatus.ofText? row.status
  let lastTriggered ← match row.lastTriggered with
    | none => some none
    | some ms => (Time.Instant.ofMillis? ms).map some
  let createdAt ← Time.Instant.ofMillis? row.createdAt
  return { id, agentId := row.agentId, workflowId, type, config, status, lastTriggered, createdAt }

private theorem toOption_ofRow {row : TriggerRow} {config : Value}
    (h : Value.read? row.config = some config) :
    (ofRow row config).toOption = ofStored? row := by
  unfold ofRow ofStored?
  rw [h]
  cases Id.ofText? row.id with
  | none => rfl
  | some id =>
  cases Id.ofText? row.workflowId with
  | none => rfl
  | some workflowId =>
  cases TriggerType.ofText? row.type with
  | none => rfl
  | some type =>
  cases TriggerStatus.ofText? row.status with
  | none => rfl
  | some status =>
  cases Time.Instant.ofMillis? row.createdAt <;> cases row.lastTriggered with
  | none => rfl
  | some ms =>
    dsimp only
    cases Time.Instant.ofMillis? ms <;> rfl

end Trigger

namespace Store.Database

private theorem readConfig_ok {row : TriggerRow} {config : Value}
    (h : Value.read? row.config = some config) : readConfig row = .ok (row, config) := by
  rw [readConfig, h]

private theorem readConfig_error {row : TriggerRow} (h : ¬ row.HasJson) :
    ∃ reason, readConfig row =
      .error (.corrupt "trigger" row.id ("config is not JSON: " ++ reason)) := by
  have hnone : Value.read? row.config = none := by
    simpa [TriggerRow.HasJson] using h
  unfold readConfig
  rw [hnone]
  exact ⟨_, rfl⟩

/-- Rows whose configurations are JSON are all read, and those that hold a trigger become one. -/
theorem readConfigs_ok {rows : List TriggerRow} (h : ∀ row ∈ rows, row.HasJson) :
    ∃ read, rows.mapM readConfig = .ok read ∧
      Trigger.ofRows read = rows.filterMap Trigger.ofStored? := by
  induction rows with
  | nil => exact ⟨[], rfl, rfl⟩
  | cons row rows ih =>
    obtain ⟨read, hread, htriggers⟩ := ih fun r hr => h r (List.mem_cons_of_mem row hr)
    obtain ⟨config, hconfig⟩ := Option.isSome_iff_exists.mp (h row List.mem_cons_self)
    refine ⟨(row, config) :: read, ?_, ?_⟩
    · rw [List.mapM_cons, readConfig_ok hconfig, hread]
      rfl
    · unfold Trigger.ofRows at htriggers ⊢
      rw [List.filterMap_cons, List.filterMap_cons, htriggers]
      simp only [Trigger.toOption_ofRow hconfig]

/-- The first row whose configuration is not JSON fails the reading of them all. -/
theorem readConfigs_error {before : List TriggerRow} {row : TriggerRow} (after : List TriggerRow)
    (hbefore : ∀ r ∈ before, r.HasJson) (hrow : ¬ row.HasJson) :
    ∃ reason, (before ++ row :: after).mapM readConfig =
      .error (.corrupt "trigger" row.id ("config is not JSON: " ++ reason)) := by
  induction before with
  | nil =>
    obtain ⟨reason, hreason⟩ := readConfig_error hrow
    refine ⟨reason, ?_⟩
    rw [List.nil_append, List.mapM_cons, hreason]
    rfl
  | cons r before ih =>
    obtain ⟨reason, hreason⟩ := ih fun x hx => hbefore x (List.mem_cons_of_mem r hx)
    obtain ⟨config, hconfig⟩ := Option.isSome_iff_exists.mp (hbefore r List.mem_cons_self)
    refine ⟨reason, ?_⟩
    rw [List.cons_append, List.mapM_cons, readConfig_ok hconfig, hreason]
    rfl

private theorem byCreation_mem {rows : List TriggerRow} {row : TriggerRow} :
    row ∈ byCreation rows ↔ row ∈ rows :=
  (List.mergeSort_perm rows _).mem_iff

private theorem byCreation_sorted (rows : List TriggerRow) :
    (byCreation rows).Pairwise TriggerRow.NoLater := by
  refine (List.pairwise_mergeSort (fun a b c hab hbc => ?_) (fun a b => ?_) rows).imp
    TriggerRow.noLater_iff.mp
  · rw [TriggerRow.noLater_iff] at hab hbc ⊢
    exact hab.trans hbc
  · rw [Bool.or_eq_true, TriggerRow.noLater_iff, TriggerRow.noLater_iff]
    exact a.noLater_total b

private theorem byCreation_ordered {rows : List TriggerRow} (h : (rows.map (·.id)).Nodup) :
    (byCreation rows).Pairwise TriggerRow.Before := by
  have hperm : (byCreation rows).Perm rows := List.mergeSort_perm rows _
  have hdistinct : (byCreation rows).Pairwise fun a b => a.id ≠ b.id :=
    List.pairwise_map.mp ((hperm.map TriggerRow.id).nodup_iff.mpr h)
  exact ((byCreation_sorted rows).and hdistinct).imp fun hab => hab.1.before hab.2

private theorem selects_byCreation {db : Database} (h : db.Lawful) (p : TriggerRow → Bool) :
    db.Selects p (byCreation (db.triggers.filter p)) where
  mem_iff row := by
    rw [byCreation_mem, List.mem_filter]
  ordered := byCreation_ordered (h.distinct.sublist (List.filter_sublist.map _))

/-- The answer is all the triggers that the rows with a condition hold, oldest first. -/
def Complete (db : Database) (p : TriggerRow → Bool) (a : Except RepositoryError (List Trigger)) :
    Prop :=
  ∃ rows, db.Selects p rows ∧ a = .ok (rows.filterMap Trigger.ofStored?)

/-- The answer is an error that names the oldest row whose configuration is not JSON. -/
def Stalled (db : Database) (p : TriggerRow → Bool) (a : Except RepositoryError (List Trigger)) :
    Prop :=
  ∃ before row after reason, db.Selects p (before ++ row :: after) ∧
    (∀ r ∈ before, r.HasJson) ∧ ¬ row.HasJson ∧
    a = .error (.failed (Store.Error.corrupt "trigger" row.id
      ("config is not JSON: " ++ reason)).message)

/-- A listing is complete exactly if all the configurations among its rows are JSON, and else it
stalls. -/
structure Listed (db : Database) (p : TriggerRow → Bool)
    (a : Except RepositoryError (List Trigger)) : Prop where
  complete_iff : db.Complete p a ↔ ∀ row ∈ db.triggers, p row → row.HasJson
  stalled : (∃ row ∈ db.triggers, p row ∧ ¬ row.HasJson) → db.Stalled p a

private theorem exists_first {rows : List TriggerRow} (h : ∃ row ∈ rows, ¬ row.HasJson) :
    ∃ before row after, rows = before ++ row :: after ∧ (∀ r ∈ before, r.HasJson) ∧
      ¬ row.HasJson := by
  have hfind : (rows.find? fun row => !(Value.read? row.config).isSome).isSome := by
    simpa [TriggerRow.HasJson] using h
  obtain ⟨row, hrow⟩ := Option.isSome_iff_exists.mp hfind
  obtain ⟨hnot, before, after, hsplit, hbefore⟩ := List.find?_eq_some_iff_append.mp hrow
  exact ⟨before, row, after, hsplit, by simpa [TriggerRow.HasJson] using hbefore,
    by simpa [TriggerRow.HasJson] using hnot⟩

private theorem listed {db : Database} (h : db.Lawful) (p : TriggerRow → Bool) :
    db.Listed p (db.look (triggersWhere p) fun rows => .ok (Trigger.ofRows rows)) := by
  have hselects := selects_byCreation h p
  have hlook : triggersWhere p db = (byCreation (db.triggers.filter p)).mapM readConfig := by
    rw [triggersWhere, withTable, if_pos h.migrated]
  unfold look
  rw [hlook]
  generalize byCreation (db.triggers.filter p) = rows at hselects
  by_cases hall : ∀ row ∈ rows, row.HasJson
  · obtain ⟨read, hread, htriggers⟩ := readConfigs_ok hall
    rw [hread]
    dsimp only
    rw [htriggers]
    have hjson : ∀ row ∈ db.triggers, p row → row.HasJson :=
      fun row hrow hp => hall row ((hselects.mem_iff row).mpr ⟨hrow, hp⟩)
    exact ⟨⟨fun _ => hjson, fun _ => ⟨rows, hselects, rfl⟩⟩,
      fun ⟨row, hrow, hp, hnot⟩ => absurd (hjson row hrow hp) hnot⟩
  · obtain ⟨before, row, after, rfl, hbefore, hrow⟩ := exists_first (by simpa using hall)
    obtain ⟨reason, hread⟩ := readConfigs_error after hbefore hrow
    rw [hread]
    have hmem := (hselects.mem_iff row).mp (by simp)
    refine ⟨⟨?_, fun hjson => absurd (hjson row hmem.1 hmem.2) hrow⟩, fun _ => ?_⟩
    · rintro ⟨_, _, ha⟩
      cases ha
    · exact ⟨before, row, after, reason, hselects, hbefore, hrow, rfl⟩

/-- The active triggers and those of an agent are listed. -/
theorem answer_listed {db : Database} (h : db.Lawful) (now : Int) :
    db.Listed (·.status == "active") (answer now .activeTriggers db).1 ∧
    ∀ agentId, db.Listed (·.agentId == agentId) (answer now (.triggersOf agentId) db).1 :=
  ⟨listed h _, fun _ => listed h _⟩

/-! ## One damaged row -/

/-- Three triggers of one workflow, created one after another: one that can be read, one whose id is
damaged and one with the given configuration. -/
def damaged (config : String) : Database where
  migrated := true
  workflows := [{
    id := "00000000-0000-0000-0000-000000000001", agentId := "agent", name := "report",
    document := "\x7b\x7d", isValid := true }]
  triggers := [
    row "00000000-0000-0000-0000-00000000000a" "\x7b\x7d" 1, row "x" "\x7b\x7d" 2,
    row "00000000-0000-0000-0000-00000000000b" config 3]
where
  row (id config : String) (createdAt : Int) : TriggerRow := {
    id, agentId := "agent", workflowId := "00000000-0000-0000-0000-000000000001",
    type := "manual", config, status := "active", createdAt }

private theorem damaged_lawful (config : String) : (damaged config).Lawful where
  migrated := rfl
  distinct := by simp [damaged, damaged.row]
  types := by simp [damaged, damaged.row, triggerTypes]
  statuses := by simp [damaged, damaged.row, triggerStatuses]
  parents := by simp [damaged, damaged.row]

private theorem damaged_hasJson_iff {config : String} {p : TriggerRow → Bool}
    (hp : ∀ row ∈ (damaged config).triggers, p row) :
    (∀ row ∈ (damaged config).triggers, p row → row.HasJson) ↔ (Value.read? config).isSome := by
  have hempty : (Value.read? "\x7b\x7d").isSome := by decide
  have hall : (∀ row ∈ (damaged config).triggers, p row → row.HasJson) ↔
      ∀ row ∈ (damaged config).triggers, row.HasJson :=
    forall₂_congr fun row hrow => imp_iff_right (hp row hrow)
  rw [hall]
  simp [damaged, damaged.row, TriggerRow.HasJson, hempty]

private theorem damaged_active (config : String) :
    ∀ row ∈ (damaged config).triggers, (row.status == "active") = true := by
  simp [damaged, damaged.row]

private theorem damaged_owned (config : String) :
    ∀ row ∈ (damaged config).triggers, (row.agentId == "agent") = true := by
  simp [damaged, damaged.row]

/-- A row with a damaged id is left out, and the others are listed. -/
theorem answer_listed_damaged : (damaged "\x7b\x7d").Lawful ∧
    (damaged "\x7b\x7d").Complete (·.status == "active")
      (answer 0 .activeTriggers (damaged "\x7b\x7d")).1 ∧
    (damaged "\x7b\x7d").Complete (·.agentId == "agent")
      (answer 0 (.triggersOf "agent") (damaged "\x7b\x7d")).1 ∧
    (damaged "\x7b\x7d").triggers.map (fun row => (Trigger.ofStored? row).isSome) =
      [true, false, true] := by
  have hjson : (Value.read? "\x7b\x7d").isSome := by decide
  obtain ⟨hactive, howned⟩ := answer_listed (damaged_lawful "\x7b\x7d") 0
  refine ⟨damaged_lawful _, ?_, ?_, by decide +kernel⟩
  · exact hactive.complete_iff.mpr ((damaged_hasJson_iff (damaged_active _)).mpr hjson)
  · exact (howned "agent").complete_iff.mpr ((damaged_hasJson_iff (damaged_owned _)).mpr hjson)

/-- The first trigger can be read, and because of the third no listing has it. -/
theorem listing_stalls_damaged : (damaged "\x7bbad").Lawful ∧
    (∃ row ∈ (damaged "\x7bbad").triggers, row.status = "active" ∧ row.agentId = "agent" ∧
      (Trigger.ofStored? row).isSome) ∧
    ¬ (damaged "\x7bbad").Complete (·.status == "active")
      (answer 0 .activeTriggers (damaged "\x7bbad")).1 ∧
    ¬ (damaged "\x7bbad").Complete (·.agentId == "agent")
      (answer 0 (.triggersOf "agent") (damaged "\x7bbad")).1 := by
  have hbad : ¬ (Value.read? "\x7bbad").isSome := by decide
  have hread : (Trigger.ofStored?
      (damaged.row "00000000-0000-0000-0000-00000000000a" "\x7b\x7d" 1)).isSome := by decide +kernel
  refine ⟨damaged_lawful _, ⟨_, List.mem_cons_self, rfl, rfl, hread⟩, fun hactive => ?_,
    fun howned => ?_⟩
  · have hjson := (listed (damaged_lawful _) _).complete_iff.mp hactive
    exact hbad ((damaged_hasJson_iff (damaged_active _)).mp hjson)
  · have hjson := (listed (damaged_lawful _) _).complete_iff.mp howned
    exact hbad ((damaged_hasJson_iff (damaged_owned _)).mp hjson)

end Store.Database

end Automation
