import Automation.Proofs.Id
import Automation.Repository.Tables

/-!
# Rows of triggers

A trigger is read back from its row as it was, if its configuration survives its text and its times
are whole milliseconds. Rows that were written in the order of creation are listed in that order.
-/

namespace Automation

open Store Json

namespace Time.Instant

/-- The instant of a count of milliseconds, and within the supported years. -/
def IsWhole (t : Instant) : Prop := ∃ ms, ofMillis? ms = some t

private theorem toMillis_ofMillis (ms : Int) : (ofMillis ms).toMillis = ms := by
  simp only [ofMillis, toMillis]
  omega

private theorem ofMillis_of_some {ms : Int} {t : Instant} (h : ofMillis? ms = some t) :
    ofMillis ms = t := by
  unfold ofMillis? inRange? at h
  split at h
  · exact Option.some.inj h
  · cases h

private theorem IsWhole.eq_ofMillis {t : Instant} (h : t.IsWhole) : t = ofMillis t.toMillis := by
  obtain ⟨ms, hms⟩ := h
  rw [← ofMillis_of_some hms, toMillis_ofMillis]

private theorem IsWhole.ofMillis?_toMillis {t : Instant} (h : t.IsWhole) :
    ofMillis? t.toMillis = some t := by
  obtain ⟨ms, hms⟩ := h
  have hcount : t.toMillis = ms := by
    rw [← ofMillis_of_some hms, toMillis_ofMillis]
  rw [hcount]
  exact hms

private theorem IsWhole.toMillis_lt {t u : Instant} (ht : t.IsWhole) (hu : u.IsWhole)
    (h : t.lt u = true) : t.toMillis < u.toMillis := by
  have hlt : t.seconds ≤ u.seconds ∧ (¬ u.seconds = t.seconds ∨ t.nanos < u.nanos) := by
    simpa [lt, le] using h
  -- the two are known by their counts, which make up seconds and nanoseconds
  rw [ht.eq_ofMillis, hu.eq_ofMillis] at hlt
  dsimp only [ofMillis] at hlt
  omega

end Time.Instant

namespace TriggerType

private theorem ofText?_text (t : TriggerType) : ofText? t.text = some t := by
  cases t <;> decide

theorem text_mem (t : TriggerType) : t.text ∈ Database.triggerTypes := by
  cases t <;> decide

end TriggerType

namespace TriggerStatus

private theorem ofText?_text (s : TriggerStatus) : ofText? s.text = some s := by
  cases s <;> decide

theorem checkStatus_text (s : TriggerStatus) : Database.checkStatus s.text = .ok () := by
  cases s <;> rfl

theorem text_eq_active (s : TriggerStatus) : (s.text == "active") = decide (s = .active) := by
  cases s <;> decide

end TriggerStatus

namespace Trigger

/-- What is written of the trigger can be read: it has ids that can be read, its configuration
survives its text and its times are whole milliseconds. -/
structure Storable (t : Trigger) : Prop where
  id : ∃ text, Id.ofText? text = some t.id
  workflowId : ∃ text, Id.ofText? text = some t.workflowId
  config : Value.read? t.config.render = some t.config
  createdAt : t.createdAt.IsWhole
  lastTriggered : ∀ time ∈ t.lastTriggered, time.IsWhole

/-- Created earlier, or at the same time with a smaller id. -/
def Precedes (t u : Trigger) : Prop :=
  t.createdAt.lt u.createdAt = true ∨ t.createdAt = u.createdAt ∧ t.id < u.id

variable {t u : Trigger}

theorem Storable.readConfig (h : t.Storable) :
    Database.readConfig t.toRow = .ok (t.toRow, t.config) := by
  have hread : Value.read? t.toRow.config = some t.config := h.config
  rw [Database.readConfig, hread]

theorem Storable.ofRow_toRow (h : t.Storable) : ofRow t.toRow t.config = .ok t := by
  obtain ⟨_, hid⟩ := h.id
  obtain ⟨_, hworkflow⟩ := h.workflowId
  have hlast : ∀ time ∈ t.lastTriggered, Time.Instant.ofMillis? time.toMillis = some time :=
    fun time htime => (h.lastTriggered time htime).ofMillis?_toMillis
  obtain ⟨id, agentId, workflowId, type, config, status, lastTriggered, createdAt⟩ := t
  simp only [ofRow, toRow, Id.ofText?_text hid, Id.ofText?_text hworkflow,
    TriggerType.ofText?_text, TriggerStatus.ofText?_text, h.createdAt.ofMillis?_toMillis]
  cases lastTriggered with
  | none => rfl
  | some time =>
    simp only [Option.map_some, hlast time rfl]
    rfl

end Trigger

theorem byCreation_rows {ts : List Trigger} (hs : ∀ t ∈ ts, t.Storable)
    (ho : ts.Pairwise Trigger.Precedes) :
    Database.byCreation (ts.map Trigger.toRow) = ts.map Trigger.toRow := by
  refine List.mergeSort_of_pairwise (List.pairwise_map.mpr ?_)
  refine ho.imp_of_mem fun {t u} ht hu h => ?_
  rw [Bool.or_eq_true, Bool.and_eq_true, decide_eq_true_iff, beq_iff_eq, Bool.not_eq_true',
    decide_eq_false_iff_not]
  rcases h with hlt | ⟨heq, hlt⟩
  · exact .inl ((hs t ht).createdAt.toMillis_lt (hs u hu).createdAt hlt)
  · exact .inr ⟨congrArg Time.Instant.toMillis heq, String.lt_asymm hlt⟩

theorem ofRows_rows {ts : List Trigger} (hs : ∀ t ∈ ts, t.Storable) :
    ∃ rows, (ts.map Trigger.toRow).mapM Database.readConfig = .ok rows ∧
      Trigger.ofRows rows = ts := by
  refine ⟨ts.map fun t => (t.toRow, t.config), ?_, ?_⟩
  · induction ts with
    | nil => rfl
    | cons t ts ih =>
      rw [List.map_cons, List.mapM_cons, (hs t List.mem_cons_self).readConfig,
        ih fun u hu => hs u (List.mem_cons_of_mem t hu)]
      rfl
  · induction ts with
    | nil => rfl
    | cons t ts ih =>
      have hrest := ih fun u hu => hs u (List.mem_cons_of_mem t hu)
      unfold Trigger.ofRows at hrest ⊢
      rw [List.map_cons, List.filterMap_cons, hrest]
      simp only [(hs t List.mem_cons_self).ofRow_toRow]
      rfl

end Automation
