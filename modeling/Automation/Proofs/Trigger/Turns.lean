import Automation.Proofs.Process.Background
import Automation.Proofs.Trigger.Activity
import Mathlib.Data.List.Forall2

/-!
# Triggers that are fired in turn

Triggers are fired one after the other in a memory that does not fail, and nothing else goes on but
the runs that are started. Each of them is fired if it has a valid workflow, or else it is given
back with the reason, and the others are left as they are.
-/

namespace Automation.Trigger

/-- What a request starts, and with which engine. -/
def launch? : ServiceRequest → Option (Engine × TriggeredRun)
  | .launch engine run => some (engine, run)
  | _ => none

/-- The runs that are started. -/
def launches (log : List Deed) : List (Engine × TriggeredRun) :=
  log.filterMap fun x => launch? x.request

end Automation.Trigger

namespace Automation.Memory

/-- Every request is answered, and none fails without reason. -/
def unfailing : Answering Memory := fun m r a m' => (a, m') = answer r m

end Automation.Memory

namespace Automation.Trigger

open Process (Ends)
open Interleaving (Amid)

/-- Activities that nobody joins but the runs that they start, in a memory that does not fail. -/
def alone (engine : Engine) :
    Interleaving Activity (Shared Memory) ServiceRequest ServiceRequest.Answer Activity.Result :=
  { activities engine Memory.unfailing with enters := fun _ => False }

/-- Triggers and workflows stay, and no more triggers are taken. -/
structure Quiet (s s' : Shared Memory) : Prop where
  taken : s'.taken ⊆ s.taken
  triggers : s'.repository.triggers = s.repository.triggers
  workflows : s'.repository.workflows = s.repository.workflows

section Parts

variable {engine : Engine} {registry : Registry} {now : Time.Instant} {t : Trigger} {id : Id}
  {w : Workflow} {log : List Deed} {s s' s'' : Shared Memory}

theorem Quiet.refl (s : Shared Memory) : Quiet s s := ⟨List.Subset.refl _, rfl, rfl⟩

theorem Quiet.trans (h : Quiet s s') (h' : Quiet s' s'') : Quiet s s'' :=
  ⟨List.Subset.trans h'.taken h.taken, h'.triggers.trans h.triggers, h'.workflows.trans h.workflows⟩

theorem Quiet.trigger?_eq (h : Quiet s s') (id : Id) :
    s'.repository.trigger? id = s.repository.trigger? id := by
  rw [Memory.trigger?, h.triggers, Memory.trigger?]

theorem quiet_of_release (htaken : s'.taken = Claims.release s.taken id)
    (hrepository : s'.repository = s.repository) : Quiet s s' where
  taken := by
    rw [htaken]
    exact List.filter_sublist.subset
  triggers := congrArg Memory.triggers hrepository
  workflows := congrArg Memory.workflows hrepository

theorem workflow?_eq {m m' : Memory} (h : m'.workflows = m.workflows) :
    m'.workflow? = m.workflow? := by
  funext id
  rw [Memory.workflow?, h, Memory.workflow?]

theorem read_of_answers {r : RepositoryRequest} {a v : r.Answer}
    (hr : s.repository.answer r = (v, s.repository))
    (ha : (alone engine).answers s (.repository r) a s') : a = v ∧ s' = s := by
  obtain ⟨htaken, hanswer⟩ : s'.taken = s.taken ∧ (a, s'.repository) = s.repository.answer r := ha
  rw [hr] at hanswer
  obtain ⟨rfl, hrepository⟩ := Prod.mk.inj hanswer
  exact ⟨rfl, Shared.ext htaken hrepository⟩

/-- The valid workflow of a trigger, or why there is none. -/
def outcome (registry : Registry) (workflow? : Id → Option Workflow) (t : Trigger) :
    Except FiringError Workflow :=
  match workflow? t.workflowId with
  | none => .error (.workflowNotFound t.workflowId)
  | some w =>
    match w.revalidate registry with
    | .error e => .error (.invalid e)
    | .ok () => .ok w

private theorem prepare_amid {found : Except FiringError (Trigger × Workflow)}
    (hstored : s.repository.trigger? t.id = some t)
    (hends : Ends (prepare registry t.id) log found) (h : Amid (alone engine) Quiet s log s') :
    found = (outcome registry s.repository.workflow? t).map (t, ·) ∧ launches log = [] ∧
      Quiet s s' := by
  obtain ⟨t?, log₁, rfl, hends₁⟩ := hends.of_ask
  obtain ⟨s₁, s₂, hb, hread, h₁⟩ := h.of_cons
  obtain ⟨rfl, rfl⟩ := read_of_answers rfl hread
  rw [hb.trigger?_eq, hstored] at hends₁
  obtain ⟨w?, log₂, rfl, hends₂⟩ := Ends.of_ask hends₁
  obtain ⟨s₃, s₄, hb', hlook, h₂⟩ := h₁.of_cons
  obtain ⟨rfl, rfl⟩ := read_of_answers rfl hlook
  have hquiet := hb.trans hb'
  rw [workflow?_eq hquiet.workflows] at hends₂
  unfold outcome
  cases hw : s.repository.workflow? t.workflowId with
  | none =>
    rw [hw] at hends₂
    obtain ⟨rfl, rfl⟩ := Ends.of_done hends₂
    exact ⟨rfl, rfl, hquiet.trans h₂.between_of_nil⟩
  | some w =>
    rw [hw] at hends₂
    dsimp only [Process.andThen] at hends₂ ⊢
    cases hvalid : w.revalidate registry with
    | error e =>
      rw [hvalid] at hends₂
      obtain ⟨rfl, rfl⟩ := Ends.of_done hends₂
      exact ⟨rfl, rfl, hquiet.trans h₂.between_of_nil⟩
    | ok _ =>
      rw [hvalid] at hends₂
      obtain ⟨rfl, rfl⟩ := Ends.of_done hends₂
      exact ⟨rfl, rfl, hquiet.trans h₂.between_of_nil⟩

/-- The triggers with the time recorded for those with these ids. -/
def stamped (now : Time.Instant) (ids : List Id) (ts : List Trigger) : List Trigger :=
  ts.map fun t => if t.id ∈ ids then { t with lastTriggered := some now } else t

/-- At most these triggers are taken in addition, the time is recorded for them, and nothing else
happens to triggers and workflows. -/
structure Marks (now : Time.Instant) (ids : List Id) (s s' : Shared Memory) : Prop where
  taken : s'.taken ⊆ ids ++ s.taken
  triggers : s'.repository.triggers = stamped now ids s.repository.triggers
  workflows : s'.repository.workflows = s.repository.workflows

/-- How a run that was started now is reported. -/
def firingOf (now : Time.Instant) (run : TriggeredRun) : Firing :=
  ⟨run.triggerId, run.workflow.id, run.executionId, now⟩

private theorem startRun_amid {r : Except FiringError Firing}
    (hthere : (s.repository.trigger? id).isSome)
    (hends : Ends (startRun engine id now w) log r) (h : Amid (alone engine) Quiet s log s') :
    ∃ executionId, r = .ok ⟨id, w.id, executionId, now⟩ ∧
      launches log = [(engine, ⟨id, executionId, w⟩)] ∧ Marks now [id] s s' := by
  obtain ⟨executionId, log₁, rfl, hends₁⟩ := hends.of_ask
  obtain ⟨s₁, s₂, hb₁, rfl, h₁⟩ := h.of_cons
  obtain ⟨_, log₂, rfl, hends₂⟩ := Ends.of_ask hends₁
  obtain ⟨s₃, s₄, hb₂, rfl, h₂⟩ := h₁.of_cons
  obtain ⟨a, log₃, rfl, hends₃⟩ := Ends.of_ask hends₂
  obtain ⟨s₅, s₆, hb₃, hstamp, h₃⟩ := h₂.of_cons
  have hquiet := (hb₁.trans hb₂).trans hb₃
  obtain ⟨htaken, hanswer⟩ : s₆.taken = s₅.taken ∧
    (a, s₆.repository) = s₅.repository.answer (.stampTrigger id now) := hstamp
  have hupdate := s₅.repository.updateTrigger_eq id fun t => { t with lastTriggered := some now }
  rw [hquiet.trigger?_eq, if_pos hthere] at hupdate
  rw [Memory.answer, hupdate] at hanswer
  obtain ⟨rfl, hrepository⟩ := Prod.mk.inj hanswer
  obtain ⟨rfl, rfl⟩ := Ends.of_done hends₃
  have hlast := h₃.between_of_nil
  refine ⟨executionId, rfl, rfl, ?_, ?_, ?_⟩
  · have htaken' : s'.taken ⊆ s.taken := List.Subset.trans hlast.taken (htaken ▸ hquiet.taken)
    exact List.Subset.trans htaken' (List.subset_append_right _ _)
  · rw [hlast.triggers, hrepository, ← hquiet.triggers]
    simp only [stamped, List.mem_singleton]
  · rw [hlast.workflows, hrepository, ← hquiet.workflows]

private theorem stamped_nil (now : Time.Instant) (ts : List Trigger) : stamped now [] ts = ts := by
  simp [stamped]

private theorem stamped_stamped (now : Time.Instant) (ids ids' : List Id) (ts : List Trigger) :
    stamped now ids' (stamped now ids ts) = stamped now (ids ++ ids') ts := by
  unfold stamped
  rw [List.map_map]
  refine List.map_congr_left fun t _ => ?_
  by_cases hid : t.id ∈ ids <;> by_cases hid' : t.id ∈ ids' <;> simp [hid, hid']

theorem Quiet.marks (h : Quiet s s') : Marks now [] s s' :=
  ⟨h.taken, h.triggers.trans (stamped_nil now _).symm, h.workflows⟩

private theorem Marks.trans {ids ids' : List Id} (h : Marks now ids s s')
    (h' : Marks now ids' s' s'') : Marks now (ids ++ ids') s s'' where
  taken := fun id hid => by
    rcases List.mem_append.mp (h'.taken hid) with hid | hid
    · simp [hid]
    · rcases List.mem_append.mp (h.taken hid) with hid | hid <;> simp [hid]
  triggers := by rw [h'.triggers, h.triggers, stamped_stamped]
  workflows := h'.workflows.trans h.workflows

private theorem Marks.trigger?_eq {ids : List Id} (h : Marks now ids s s') (hid : id ∉ ids) :
    s'.repository.trigger? id = s.repository.trigger? id := by
  have hkey : (fun t : Trigger => decide (t.id = id)) ∘
      (fun t => if t.id ∈ ids then { t with lastTriggered := some now } else t) =
      fun t => decide (t.id = id) := by
    funext t
    by_cases ht : t.id ∈ ids <;> simp [ht]
  unfold Memory.trigger?
  rw [h.triggers, stamped, List.find?_map, hkey]
  cases hfound : s.repository.triggers.find? fun t => decide (t.id = id) with
  | none => rfl
  | some t =>
    have ht : t.id = id := by simpa using List.find?_some hfound
    rw [Option.map_some, if_neg (ht ▸ hid)]

/-- A free trigger with a valid workflow is fired, and any other is given back. -/
theorem fire_amid {r : Except FiringError Firing} (hfree : t.id ∉ s.taken)
    (hstored : s.repository.trigger? t.id = some t)
    (hends : Ends (fire engine t.id now) log r) (h : Amid (alone engine) Quiet s log s') :
    match outcome engine.registry s.repository.workflow? t with
    | .error e => r = .error e ∧ launches log = [] ∧ Marks now [] s s'
    | .ok w => ∃ executionId, r = .ok ⟨t.id, w.id, executionId, now⟩ ∧
        launches log = [(engine, ⟨t.id, executionId, w⟩)] ∧ Marks now [t.id] s s' := by
  obtain ⟨free, log₁, rfl, hends₁⟩ := hends.of_ask
  obtain ⟨s₁, s₂, hb, ⟨hclaim, hrepository⟩, h₁⟩ := h.of_cons
  -- nobody else takes triggers, so this one is still free when it is claimed
  have hnot : t.id ∉ s₁.taken := fun hid => hfree (hb.taken hid)
  rw [Claims.claim_of_not_mem hnot] at hclaim
  obtain ⟨rfl, htaken⟩ := Prod.mk.inj hclaim
  have hclaimed : Marks now [] ⟨t.id :: s.taken, s.repository⟩ s₂ := by
    refine Quiet.marks ⟨?_, ?_, ?_⟩
    · rw [htaken]
      exact List.cons_subset_cons _ hb.taken
    · rw [hrepository]
      exact hb.triggers
    · rw [hrepository]
      exact hb.workflows
  have hstored₂ : s₂.repository.trigger? t.id = some t :=
    (hclaimed.trigger?_eq List.not_mem_nil).trans hstored
  obtain ⟨found, log₂, log₃, rfl, hprepare, hends₂⟩ :=
    Ends.of_bind (p := prepare engine.registry t.id) hends₁
  obtain ⟨s₃, h₂, h₃⟩ := h₁.of_append Quiet.refl
  obtain ⟨rfl, hnone, hquiet⟩ := prepare_amid hstored₂ hprepare h₂
  have hworkflows : s₂.repository.workflow? = s.repository.workflow? :=
    workflow?_eq hclaimed.workflows
  rw [hworkflows] at hends₂
  have hprepared := hclaimed.trans hquiet.marks
  cases houtcome : outcome engine.registry s.repository.workflow? t with
  | error e =>
    rw [houtcome] at hends₂
    obtain ⟨_, log₄, rfl, hends₃⟩ := Ends.of_ask hends₂
    obtain ⟨s₄, s₅, hb₄, ⟨hreleased, hrepository'⟩, h₄⟩ := h₃.of_cons
    obtain ⟨rfl, rfl⟩ := Ends.of_done hends₃
    have hgiven := quiet_of_release hreleased hrepository'
    have hlast := hprepared.trans ((hb₄.trans hgiven).trans h₄.between_of_nil).marks
    refine ⟨rfl, ?_, ⟨fun id hid => ?_, hlast.triggers, hlast.workflows⟩⟩
    · simpa [launches, launch?] using hnone
    · have hne : id ≠ t.id := by
        rintro rfl
        exact Claims.not_mem_release (hreleased ▸ h₄.between_of_nil.taken hid)
      exact (List.mem_cons.mp (hlast.taken hid)).resolve_left hne
  | ok w =>
    rw [houtcome] at hends₂
    have hthere : (s₃.repository.trigger? t.id).isSome := by
      rw [hquiet.trigger?_eq, hstored₂]
      rfl
    obtain ⟨executionId, rfl, hlaunch, hmarks⟩ := startRun_amid hthere hends₂ h₃
    have hlast := hprepared.trans hmarks
    refine ⟨executionId, rfl, ?_, ⟨fun id hid => ?_, hlast.triggers, hlast.workflows⟩⟩
    · have hlog : launches (log₂ ++ log₃) = launches log₂ ++ launches log₃ := List.filterMap_append
      change launches (log₂ ++ log₃) = _
      rw [hlog, hnone, hlaunch]
      rfl
    · simpa using hlast.taken hid

/-- The failures among some triggers. -/
def failures (registry : Registry) (workflow? : Id → Option Workflow) (ts : List Trigger) :
    List (Id × FiringError) :=
  ts.filterMap fun t =>
    match outcome registry workflow? t with
    | .error e => some (t.id, e)
    | .ok _ => none

/-- What it comes to when some triggers have had their turns: the runs that were started, and how
the report has grown. -/
structure Turns (engine : Engine) (now : Time.Instant) (workflow? : Id → Option Workflow)
    (ts : List Trigger) (log : List Deed) (runs : List TriggeredRun) (report report' : PassReport)
    (s s' : Shared Memory) : Prop where
  launched : launches log = runs.map (engine, ·)
  started : List.Forall₂ (fun t run => run.triggerId = t.id ∧
    outcome engine.registry workflow? t = .ok run.workflow)
    (ts.filter fun t => (outcome engine.registry workflow? t).isOk) runs
  fired : report'.fired = report.fired ++ runs.map (firingOf now)
  failed : report'.failures = report.failures ++ failures engine.registry workflow? ts
  marks : Marks now (runs.map (·.triggerId)) s s'

theorem Turns.trans {workflow? : Id → Option Workflow} {ts ts' : List Trigger} {log' : List Deed}
    {runs runs' : List TriggeredRun} {report report' report'' : PassReport}
    (h : Turns engine now workflow? ts log runs report report' s s')
    (h' : Turns engine now workflow? ts' log' runs' report' report'' s' s'') :
    Turns engine now workflow? (ts ++ ts') (log ++ log') (runs ++ runs') report report'' s s'' where
  launched := by
    rw [List.map_append, ← h.launched, ← h'.launched]
    exact List.filterMap_append
  started := by
    rw [List.filter_append]
    exact List.rel_append h.started h'.started
  fired := by rw [h'.fired, h.fired, List.map_append, List.append_assoc]
  failed := by
    have happend : failures engine.registry workflow? (ts ++ ts') = _ := List.filterMap_append
    rw [h'.failed, h.failed, happend, List.append_assoc]
    rfl
  marks := by
    rw [List.map_append]
    exact h.marks.trans h'.marks

theorem fireAll_amid {report report' : PassReport} {ts : List Trigger}
    (hnodup : (ts.map (·.id)).Nodup)
    (hts : ∀ t ∈ ts, t.id ∉ s.taken ∧ s.repository.trigger? t.id = some t)
    (hends : Ends (fireAll engine now report ts) log report')
    (h : Amid (alone engine) Quiet s log s') :
    ∃ runs, Turns engine now s.repository.workflow? ts log runs report report' s s' := by
  induction ts generalizing report log s with
  | nil =>
    obtain ⟨rfl, rfl⟩ := Ends.of_done hends
    exact ⟨[], rfl, .nil, (List.append_nil _).symm, (List.append_nil _).symm,
      h.between_of_nil.marks⟩
  | cons t ts ih =>
    rw [List.map_cons, List.nodup_cons] at hnodup
    obtain ⟨r, log₁, log₂, rfl, hfire, hrest⟩ := Ends.of_bind hends
    obtain ⟨s₁, h₁, h₂⟩ := h.of_append Quiet.refl
    obtain ⟨hfree, hstored⟩ := hts t List.mem_cons_self
    have hturn := fire_amid hfree hstored hfire h₁
    -- the turn of the first trigger, fired or not
    obtain ⟨own, report₁, hown, hids, hrest⟩ : ∃ own report₁,
        Turns engine now s.repository.workflow? [t] log₁ own report report₁ s s₁ ∧
        own.map (·.triggerId) ⊆ [t.id] ∧ Ends (fireAll engine now report₁ ts) log₂ report' := by
      cases houtcome : outcome engine.registry s.repository.workflow? t with
      | error e =>
        rw [houtcome] at hturn
        obtain ⟨rfl, hlaunch, hmarks⟩ := hturn
        refine ⟨[], { report with failures := report.failures ++ [(t.id, e)] },
          ⟨hlaunch, ?_, (List.append_nil _).symm, ?_, hmarks⟩, nofun, hrest⟩
        · simp [houtcome, Except.isOk, Except.toBool]
        · simp [failures, houtcome]
      | ok w =>
        rw [houtcome] at hturn
        obtain ⟨executionId, rfl, hlaunch, hmarks⟩ := hturn
        refine ⟨[⟨t.id, executionId, w⟩], _, ⟨hlaunch, ?_, rfl, ?_, hmarks⟩, List.Subset.refl _,
          hrest⟩
        · simp [houtcome, Except.isOk, Except.toBool]
        · simp [failures, houtcome]
    have hworkflows : s₁.repository.workflow? = s.repository.workflow? :=
      workflow?_eq hown.marks.workflows
    -- it leaves those that are still to have their turns free and as they are stored
    have hts₁ : ∀ u ∈ ts, u.id ∉ s₁.taken ∧ s₁.repository.trigger? u.id = some u := by
      intro u hu
      obtain ⟨hufree, hustored⟩ := hts u (List.mem_cons_of_mem t hu)
      have hne : u.id ≠ t.id := fun heq => hnodup.1 (heq ▸ List.mem_map_of_mem hu)
      have hnot : u.id ∉ own.map (·.triggerId) := fun hid => hne (List.mem_singleton.mp (hids hid))
      refine ⟨fun hid => ?_, (hown.marks.trigger?_eq hnot).trans hustored⟩
      exact (List.mem_append.mp (hown.marks.taken hid)).elim hnot hufree
    obtain ⟨runs, hlater⟩ := ih hnodup.2 hts₁ hrest h₂
    rw [hworkflows] at hlater
    exact ⟨own ++ runs, hown.trans hlater⟩

end Parts

end Automation.Trigger
