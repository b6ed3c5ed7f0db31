import Automation.Proofs.Service.Effects
import Automation.Proofs.Trigger.Staleness
import Automation.Proofs.Trigger.Turns

/-!
# What a pass does

A pass that meets with no other call and no failure fires just the triggers that are due, are not
taken and have a valid workflow, and reports just those that are due and not taken but have none.
The runs that it starts may go on in the meantime. What becomes of a trigger depends on it and its
workflow alone.
-/

namespace Automation.Trigger

open Process (Asks Ends)
open Interleaving (Amid share)

/-- Active, fired by time, with a usable schedule, and never fired or due again by now. -/
def Due (now : Time.Instant) (t : Trigger) : Prop :=
  t.status = .active ∧ t.type = .timeBased ∧ ∃ s, Schedule.ofConfig t.config = .ok s ∧
    ∀ last ∈ t.lastTriggered, ∃ next ∈ s.nextDue? last, next.le now = true

private theorem isDue_iff {now : Time.Instant} {t : Trigger} : t.isDue now = true ↔ Due now t := by
  obtain ⟨id, agentId, workflowId, type, config, status, last, createdAt⟩ := t
  unfold isDue checkDue isActive schedule Due
  cases status with
  | paused => exact ⟨nofun, nofun⟩
  | active =>
    cases type with
    | timeBased =>
      dsimp only
      cases hs : Schedule.ofConfig config with
      | error e => exact ⟨nofun, nofun⟩
      | ok s =>
        cases last with
        | none => exact ⟨fun _ => ⟨rfl, rfl, s, rfl, nofun⟩, fun _ => rfl⟩
        | some last =>
          have hschedule : (∃ s', Except.ok (ε := Schedule.Error) s = .ok s' ∧
              ∀ l ∈ some last, ∃ next ∈ s'.nextDue? l, next.le now = true) ↔
              ∃ next ∈ s.nextDue? last, next.le now = true := by simp
          rw [hschedule]
          cases hnext : s.nextDue? last <;> simp [bind, Except.bind, pure, Except.pure, hnext]
    | webhook => exact ⟨nofun, nofun⟩
    | manual => exact ⟨nofun, nofun⟩
    | dbChange => exact ⟨nofun, nofun⟩

instance (now : Time.Instant) (t : Trigger) : Decidable (Due now t) :=
  decidable_of_iff (t.isDue now = true) isDue_iff

/-! ## A pass and its runs -/

/-- What a run asks in the background. -/
def Idles (r : ServiceRequest) : Prop :=
  (r = .now ∨ ∃ engine calls, r = .dispatch engine calls) ∨
    (∃ result, r = .repository (.saveRun result)) ∨ ∃ id, r = .release id

private theorem run_idles (engine : Engine) (run : TriggeredRun) :
    Asks Idles (run.process engine) := by
  have hrun : Asks Idles
      (Serving.ofRunning engine (engine.execute run.workflow run.executionId)) :=
    (Service.ofRunning_asks engine _).mono fun r hr =>
      .inl (hr.imp_right fun ⟨calls, h⟩ => ⟨engine, calls, h⟩)
  refine hrun.bind ?_
  have hrelease : Idles (.release run.triggerId) := .inr (.inr ⟨_, rfl⟩)
  rintro (e | result)
  · exact .ask hrelease fun _ => .done _
  · exact .ask (.inr (.inl ⟨result, rfl⟩)) fun _ => .ask hrelease fun _ => .done _

section Passes

variable {engine : Engine} {now : Time.Instant} {taken : List Id} {m : Memory}
  {log : List (Interleaving.Event ServiceRequest ServiceRequest.Answer)}
  {s u : Interleaving.State Activity (Shared Memory) ServiceRequest ServiceRequest.Answer
    Activity.Result} {p : Ongoing}

private theorem Idles.quiet {s s' : Shared Memory} {r : ServiceRequest} {a : r.Answer}
    (hr : Idles r) (ha : (alone engine).answers s r a s') : Quiet s s' := by
  rcases hr with (rfl | ⟨_, calls, rfl⟩) | ⟨result, rfl⟩ | ⟨id, rfl⟩
  · exact ha ▸ Quiet.refl s
  · exact ha ▸ Quiet.refl s
  · obtain ⟨htaken, hanswer⟩ : s'.taken = s.taken ∧
      (a, s'.repository) = s.repository.answer (.saveRun result) := ha
    obtain ⟨-, hrepository⟩ := Prod.mk.inj hanswer
    exact ⟨htaken ▸ List.Subset.refl _, hrepository ▸ rfl, hrepository ▸ rfl⟩
  · exact quiet_of_release ha.1 ha.2

/-- While a pass goes on nothing happens in the background that matters to it. -/
theorem amid_of_course (hs : s.parties = [p])
    (h : (alone engine).Course s log u) :
    Amid (alone engine) Quiet s.shared (share 0 log) u.shared := by
  refine h.amid Quiet.refl (fun _ _ _ => Quiet.trans) fun log' t k x t' hcourse _ hk hmove => ?_
  have hidle := hcourse.forall_others (n := 0) (P := fun p => Asks Idles p.rest)
    (fun _ hno => False.elim hno) (fun r task htask => ?_) (fun _ _ _ _ a h => ?_)
    (fun k p hk hp => ?_)
  · obtain ⟨p, next, hp, hrest, ha, -⟩ := hmove.of_event
    have hasks := hidle k p hk hp
    rw [hrest] at hasks
    exact (Process.Follows.allows hasks).quiet ha
  · cases r with
    | launch e run =>
      cases htask
      exact (run_idles e run).bind fun _ => .done _
    | _ => cases htask
  · cases h with
    | ask _ hnext => exact hnext a
  · have hlt := (List.getElem?_eq_some_iff.mp hp).1
    rw [hs, List.length_singleton] at hlt
    omega

private theorem claimed_eq {a : Except RepositoryError (List Trigger)} {claimed : List Id}
    {later : List Deed} (hs : s.parties = [p]) (h : (alone engine).Course s log u)
    (hshare : share 0 log = ⟨.repository .activeTriggers, a⟩ :: ⟨.claimed, claimed⟩ :: later) :
    claimed = s.shared.taken := by
  have hshare : share 0 log = [⟨.repository .activeTriggers, a⟩] ++ ⟨.claimed, claimed⟩ :: later :=
    hshare
  obtain ⟨before, after, rfl, hbefore, -⟩ := Interleaving.share_eq_append hshare
  obtain ⟨t, t', hcourse, hmove, -⟩ := h.split
  -- up to then the pass has started no run, so that nobody else has moved
  have hjoins : ∀ x ∈ share 0 before, (alone engine).joins x.request = none := by
    rw [hbefore]
    rintro x hx
    rw [List.mem_singleton.mp hx]
    rfl
  have hsame : Amid (alone engine) Eq s.shared (share 0 before) t.shared := by
    obtain ⟨-, hown⟩ := hcourse.alone (fun _ h => h) hs hjoins
    refine hcourse.amid (fun _ => rfl) (fun _ _ _ => Eq.trans) fun _ _ k x _ _ hx hk _ => ?_
    exact absurd (hown (k, x) hx) hk
  rw [hbefore] at hsame
  obtain ⟨s₁, s₂, rfl, hlist, hlast⟩ := hsame.of_cons
  obtain ⟨-, rfl⟩ := read_of_answers rfl hlist
  obtain ⟨_, _, _, _, ha, -⟩ := hmove.of_event
  rw [← hlast.between_of_nil] at ha
  exact ha.1

/-- The triggers that a pass tries to fire. -/
def found (now : Time.Instant) (taken : List Id) (m : Memory) : List Trigger :=
  m.triggers.filter fun t => Due now t ∧ t.id ∉ taken

private theorem due_eq_found (now : Time.Instant) (taken : List Id) (m : Memory) :
    ((m.triggers.filter (·.isActive)).filter fun t => t.isDue now && !taken.contains t.id) =
      found now taken m := by
  rw [List.filter_filter, found]
  refine List.filter_congr fun t _ => ?_
  rw [Bool.eq_iff_iff, decide_eq_true_iff, Bool.and_eq_true, Bool.and_eq_true, isDue_iff]
  simp only [Bool.not_eq_true', List.contains_eq_mem, decide_eq_false_iff_not]
  exact ⟨And.left, fun h => ⟨h, decide_eq_true h.1.1⟩⟩

private theorem mem_found {t : Trigger} (h : t ∈ found now taken m) :
    t ∈ m.triggers ∧ Due now t ∧ t.id ∉ taken := by
  simpa [found] using h

/-- A pass gives every trigger that it finds its turn. -/
theorem pass_turns {r : Except RepositoryError PassReport}
    (hm : s.shared.repository.Distinct) (hs : s.parties = [p])
    (h : (alone engine).Course s log u) (hends : Ends (pass engine now) (share 0 log) r) :
    ∃ report runs, r = .ok report ∧ Turns engine now s.shared.repository.workflow?
      (found now s.shared.taken s.shared.repository) (share 0 log) runs {} report
      s.shared u.shared := by
  have hamid := amid_of_course hs h
  have hclaimed : ∀ a claimed later,
      share 0 log = ⟨.repository .activeTriggers, a⟩ :: ⟨.claimed, claimed⟩ :: later →
        claimed = s.shared.taken := fun _ _ _ => claimed_eq hs h
  generalize share 0 log = own at hamid hends hclaimed ⊢
  obtain ⟨a, log₁, rfl, hends₁⟩ := Ends.of_ask hends
  obtain ⟨s₁, s₂, hb₁, hlist, h₁⟩ := hamid.of_cons
  obtain ⟨rfl, rfl⟩ := read_of_answers rfl hlist
  obtain ⟨claimed, log₂, rfl, hends₂⟩ := Ends.of_ask hends₁
  obtain ⟨s₃, s₄, hb₂, ⟨-, rfl⟩, h₂⟩ := h₁.of_cons
  obtain rfl := hclaimed _ _ _ rfl
  obtain ⟨report, log₃, log₄, rfl, hfires, hdone⟩ := Ends.of_bind (p := fireAll engine now {}
    ((s₂.repository.triggers.filter (·.isActive)).filter fun t =>
      t.isDue now && !s.shared.taken.contains t.id)) hends₂
  rw [due_eq_found, found, hb₁.triggers, ← found] at hfires
  obtain ⟨rfl, rfl⟩ := Ends.of_done hdone
  rw [List.append_nil] at h₂ ⊢
  have hquiet := hb₁.trans hb₂
  -- from the listing to the first turn nothing has happened that matters
  have hnodup : ((found now s.shared.taken s.shared.repository).map (·.id)).Nodup :=
    hm.sublist (List.filter_sublist.map _)
  have hts : ∀ t ∈ found now s.shared.taken s.shared.repository,
      t.id ∉ s₄.taken ∧ s₄.repository.trigger? t.id = some t := by
    intro t ht
    obtain ⟨hmem, -, hfree⟩ := mem_found ht
    refine ⟨fun hid => hfree (hquiet.taken hid), ?_⟩
    rw [hquiet.trigger?_eq, Memory.trigger?_of_mem hm hmem]
  obtain ⟨runs, hturns⟩ := fireAll_amid hnodup hts hfires h₂
  rw [workflow?_eq hquiet.workflows] at hturns
  have hlisted : Turns engine now s.shared.repository.workflow? []
      [⟨.repository .activeTriggers, .ok (s₂.repository.triggers.filter (·.isActive))⟩,
        ⟨.claimed, s.shared.taken⟩] [] {} {} s.shared s₄ :=
    ⟨rfl, .nil, rfl, rfl, hquiet.marks⟩
  exact ⟨report, runs, rfl, hlisted.trans hturns⟩

end Passes

private theorem map_eq_of_forall₂ {α β γ : Type} {R : α → β → Prop} {f : α → γ} {g : β → γ}
    {xs : List α} {ys : List β} (hR : ∀ x y, R x y → g y = f x) (h : List.Forall₂ R xs ys) :
    ys.map g = xs.map f := by
  induction h with
  | nil => rfl
  | cons hr _ ih => rw [List.map_cons, List.map_cons, hR _ _ hr, ih]

private theorem mem_of_forall₂ {α β : Type} {R : α → β → Prop} {xs : List α} {ys : List β}
    (h : List.Forall₂ R xs ys) : (∀ x ∈ xs, ∃ y ∈ ys, R x y) ∧ ∀ y ∈ ys, ∃ x ∈ xs, R x y := by
  induction h with
  | nil => exact ⟨nofun, nofun⟩
  | cons hr _ ih => exact ⟨by simpa using ⟨.inl hr, fun x hx => .inr (ih.1 x hx)⟩, by
      simpa using ⟨.inl hr, fun y hy => .inr (ih.2 y hy)⟩⟩

/-! ## Whatever is stored and taken -/

/-- What a pass meets with when it begins. -/
structure Outset where
  engine : Engine
  now : Time.Instant
  taken : List Id
  memory : Memory

namespace Outset

variable (b : Outset) (t : Trigger)

def state : Interleaving.State Activity (Shared Memory) ServiceRequest ServiceRequest.Answer
    Activity.Result :=
  ⟨[(alone b.engine).newcomer (.pass b.now)], ⟨b.taken, b.memory⟩⟩

/-- The pass comes to its end. -/
def Passes (log : List (Interleaving.Event ServiceRequest ServiceRequest.Answer))
    (u : Interleaving.State Activity (Shared Memory) ServiceRequest ServiceRequest.Answer
      Activity.Result) (r : Except RepositoryError PassReport) : Prop :=
  (alone b.engine).Course b.state log u ∧
    ∃ past, u.parties[0]? = some ⟨.pass b.now, past, .done (.passed r)⟩

/-- The trigger's workflow is stored and valid. -/
def HasWorkflow : Prop :=
  ∃ w ∈ b.memory.workflow? t.workflowId, (Compiler.validate b.engine.registry w).isValid = true

def Fires : Prop := Due b.now t ∧ t.id ∉ b.taken ∧ b.HasWorkflow t

def Fails : Prop := Due b.now t ∧ t.id ∉ b.taken ∧ ¬ b.HasWorkflow t

instance : DecidablePred b.HasWorkflow := fun t =>
  inferInstanceAs (Decidable (∃ w ∈ b.memory.workflow? t.workflowId,
    (Compiler.validate b.engine.registry w).isValid = true))

instance : DecidablePred b.Fires := fun _ => inferInstanceAs (Decidable (_ ∧ _ ∧ _))

instance : DecidablePred b.Fails := fun _ => inferInstanceAs (Decidable (_ ∧ _ ∧ _))

/-- The run is one of the trigger's workflow. -/
def Runs (run : TriggeredRun) : Prop :=
  run.triggerId = t.id ∧ b.memory.workflow? t.workflowId = some run.workflow

/-- The failure is that the trigger has no workflow, or an invalid one. -/
def Blames (failure : Id × FiringError) : Prop :=
  failure.1 = t.id ∧
    match b.memory.workflow? t.workflowId with
    | none => failure.2 = .workflowNotFound t.workflowId
    | some w => failure.2 = .invalid ⟨w.id, Compiler.validate b.engine.registry w⟩

/-- The trigger afterwards. -/
def afterwards : Trigger := if b.Fires t then { t with lastTriggered := some b.now } else t

/-- What a pass does. -/
structure Does (log : List Deed) (report : PassReport) (after : Memory) : Prop where
  launched : ∃ runs, launches log = runs.map (b.engine, ·) ∧
    List.Forall₂ b.Runs (b.memory.triggers.filter b.Fires) runs ∧
    report.fired = runs.map (firingOf b.now)
  failed : List.Forall₂ b.Blames (b.memory.triggers.filter b.Fails) report.failures
  triggers : after.triggers = b.memory.triggers.map b.afterwards
  workflows : after.workflows = b.memory.workflows

variable {b t}

private theorem outcome_spec (b : Outset) (t : Trigger) :
    match outcome b.engine.registry b.memory.workflow? t with
    | .ok w => b.memory.workflow? t.workflowId = some w ∧ b.HasWorkflow t
    | .error e => b.Blames t (t.id, e) ∧ ¬ b.HasWorkflow t := by
  unfold outcome Workflow.revalidate Blames HasWorkflow
  cases b.memory.workflow? t.workflowId with
  | none => simp
  | some w =>
    dsimp only
    cases hvalid : (Compiler.validate b.engine.registry w).isValid <;> simp [hvalid]

private theorem outcome_isOk (b : Outset) :
    (fun t => (outcome b.engine.registry b.memory.workflow? t).isOk) =
      fun t => decide (b.HasWorkflow t) := by
  funext t
  have hspec := b.outcome_spec t
  cases houtcome : outcome b.engine.registry b.memory.workflow? t with
  | ok w =>
    rw [houtcome] at hspec
    exact (decide_eq_true hspec.2).symm
  | error e =>
    rw [houtcome] at hspec
    exact (decide_eq_false hspec.2).symm

private theorem failures_blamed (b : Outset) (ts : List Trigger) :
    List.Forall₂ b.Blames (ts.filter fun t => ¬ b.HasWorkflow t)
      (failures b.engine.registry b.memory.workflow? ts) := by
  induction ts with
  | nil => exact .nil
  | cons t ts ih =>
    have hspec := b.outcome_spec t
    unfold failures at ih ⊢
    rw [List.filterMap_cons]
    cases houtcome : outcome b.engine.registry b.memory.workflow? t with
    | ok w =>
      rw [houtcome] at hspec
      rw [List.filter_cons_of_neg (by simpa using hspec.2)]
      exact ih
    | error e =>
      rw [houtcome] at hspec
      rw [List.filter_cons_of_pos (by simpa using hspec.2)]
      exact .cons hspec.1 ih

private theorem filter_found (b : Outset) {q : Trigger → Prop} [DecidablePred q] :
    (found b.now b.taken b.memory).filter (fun t => q t) =
      b.memory.triggers.filter fun t => Due b.now t ∧ t.id ∉ b.taken ∧ q t := by
  rw [found, List.filter_filter]
  refine List.filter_congr fun t _ => ?_
  rw [Bool.eq_iff_iff]
  simp only [Bool.and_eq_true, decide_eq_true_iff]
  exact ⟨fun h => ⟨h.2.1, h.2.2, h.1⟩, fun h => ⟨h.2.2, h.1, h.2.1⟩⟩

private theorem fires_iff {runs : List TriggeredRun} (hm : b.memory.Distinct)
    (hruns : List.Forall₂ b.Runs (b.memory.triggers.filter b.Fires) runs)
    (ht : t ∈ b.memory.triggers) : b.Fires t ↔ t.id ∈ runs.map (·.triggerId) := by
  rw [map_eq_of_forall₂ (fun _ _ hrun => hrun.1) hruns, List.mem_map]
  constructor
  · exact fun hfires => ⟨t, List.mem_filter.mpr ⟨ht, decide_eq_true hfires⟩, rfl⟩
  · rintro ⟨u, hu, hid⟩
    obtain ⟨hu, hfires⟩ := List.mem_filter.mp hu
    exact Memory.eq_of_id_eq hm ht hu hid ▸ of_decide_eq_true hfires

private theorem does_of_turns {log : List Deed} {runs : List TriggeredRun} {report : PassReport}
    {after : Shared Memory} (hm : b.memory.Distinct)
    (h : Turns b.engine b.now b.memory.workflow? (found b.now b.taken b.memory) log runs {} report
      ⟨b.taken, b.memory⟩ after) : b.Does log report after.repository := by
  have hruns : List.Forall₂ b.Runs (b.memory.triggers.filter b.Fires) runs := by
    have hstarted := h.started
    rw [b.outcome_isOk, b.filter_found] at hstarted
    refine hstarted.imp fun t run hrun => ⟨hrun.1, ?_⟩
    have hspec := b.outcome_spec t
    rw [hrun.2] at hspec
    exact hspec.1
  exact {
    launched := ⟨runs, h.launched, hruns, h.fired⟩
    failed := by
      have hblamed := b.failures_blamed (found b.now b.taken b.memory)
      rw [b.filter_found] at hblamed
      rw [h.failed]
      exact hblamed
    triggers := by
      rw [h.marks.triggers]
      refine List.map_congr_left fun t ht => ?_
      rw [afterwards]
      exact if_congr (fires_iff hm hruns ht).symm rfl rfl
    workflows := h.marks.workflows }

private theorem passes_does {log : List (Interleaving.Event ServiceRequest ServiceRequest.Answer)}
    {u : Interleaving.State Activity (Shared Memory) ServiceRequest ServiceRequest.Answer
      Activity.Result} {r : Except RepositoryError PassReport} (hm : b.memory.Distinct)
    (h : b.Passes log u r) :
    ∃ report, r = .ok report ∧ b.Does (share 0 log) report u.shared.repository := by
  obtain ⟨hcourse, past, hend⟩ := h
  obtain ⟨q, hq, hpass⟩ := hcourse.party_course (n := 0) rfl
  cases hend.symm.trans hq
  obtain ⟨_, heq, hends⟩ := Ends.of_bind_done (p := pass b.engine b.now)
    (g := Activity.Result.passed) hpass
  cases heq
  obtain ⟨report, runs, rfl, hturns⟩ := pass_turns (s := b.state) hm rfl hcourse hends
  exact ⟨report, rfl, does_of_turns hm hturns⟩

private theorem exists_passes (b : Outset) : ∃ log u r, b.Passes log u r := by
  have hanswers : ∀ s r, ∃ a s', (alone b.engine).answers s r a s' :=
    Shared.exists_answer fun m r => ⟨_, _, rfl⟩
  obtain ⟨xs, r, s', hends, hserves⟩ :=
    Interleaving.exists_serves hanswers (pass b.engine b.now) b.state.shared
  obtain ⟨u, hcourse, hparty, -⟩ := Interleaving.Course.of_party (s := b.state) (n := 0)
    hends.bind rfl hserves
  exact ⟨_, u, r, hcourse, _, hparty⟩

/-! ## One trigger among others -/

section One

variable {log : List Deed} {report : PassReport} {after : Memory}

private theorem Does.launch_iff (hm : b.memory.Distinct) (h : b.Does log report after)
    (ht : t ∈ b.memory.triggers) (w : Workflow) :
    (∃ executionId, (b.engine, ⟨t.id, executionId, w⟩) ∈ launches log) ↔
      b.Fires t ∧ b.memory.workflow? t.workflowId = some w := by
  obtain ⟨runs, hlaunch, hruns, -⟩ := h.launched
  rw [hlaunch]
  constructor
  · rintro ⟨executionId, hmem⟩
    obtain ⟨run, hrun, heq⟩ := List.mem_map.mp hmem
    obtain rfl : run = ⟨t.id, executionId, w⟩ := (Prod.mk.inj heq).2
    obtain ⟨u, hu, hid, hw⟩ := (mem_of_forall₂ hruns).2 _ hrun
    obtain ⟨hu, hfires⟩ := List.mem_filter.mp hu
    obtain rfl := Memory.eq_of_id_eq hm ht hu hid.symm
    exact ⟨of_decide_eq_true hfires, hw⟩
  · rintro ⟨hfires, hw⟩
    obtain ⟨run, hrun, hid, hstored⟩ := (mem_of_forall₂ hruns).1 t
      (List.mem_filter.mpr ⟨ht, decide_eq_true hfires⟩)
    obtain ⟨triggerId, executionId, v⟩ := run
    obtain rfl : triggerId = t.id := hid
    obtain rfl : v = w := Option.some.inj (hstored.symm.trans hw)
    exact ⟨executionId, List.mem_map_of_mem hrun⟩

private theorem Does.failure_iff (hm : b.memory.Distinct) (h : b.Does log report after)
    (ht : t ∈ b.memory.triggers) (e : FiringError) :
    (t.id, e) ∈ report.failures ↔ b.Fails t ∧ b.Blames t (t.id, e) := by
  constructor
  · intro hmem
    obtain ⟨u, hu, hblames⟩ := (mem_of_forall₂ h.failed).2 _ hmem
    obtain ⟨hu, hfails⟩ := List.mem_filter.mp hu
    obtain rfl := Memory.eq_of_id_eq hm ht hu hblames.1.symm
    exact ⟨of_decide_eq_true hfails, hblames⟩
  · rintro ⟨hfails, hblames⟩
    obtain ⟨⟨id, e'⟩, hmem, hblames'⟩ := (mem_of_forall₂ h.failed).1 t
      (List.mem_filter.mpr ⟨ht, decide_eq_true hfails⟩)
    obtain rfl : id = t.id := hblames'.1
    obtain rfl : e' = e := by
      have hreason := hblames.2
      have hreason' := hblames'.2
      cases hw : b.memory.workflow? t.workflowId <;> rw [hw] at hreason hreason' <;>
        exact hreason'.trans hreason.symm
    exact hmem

private theorem Does.trigger?_eq (hm : b.memory.Distinct) (h : b.Does log report after)
    (ht : t ∈ b.memory.triggers) : after.trigger? t.id = some (b.afterwards t) := by
  have hid (u : Trigger) : (b.afterwards u).id = u.id := by
    unfold afterwards
    split <;> rfl
  have hkey : (fun u : Trigger => decide (u.id = t.id)) ∘ b.afterwards =
      fun u => decide (u.id = t.id) := funext fun u => by rw [Function.comp_apply, hid]
  have hstored := Memory.trigger?_of_mem hm ht
  unfold Memory.trigger? at hstored ⊢
  rw [h.triggers, List.find?_map, hkey, hstored]
  rfl

end One

/-- Another pass at the same time meets with the same of the trigger, whatever it meets with of
others. -/
structure Agrees (b b' : Outset) (t : Trigger) : Prop where
  engine : b'.engine = b.engine
  now : b'.now = b.now
  stored : t ∈ b'.memory.triggers
  workflow : b'.memory.workflow? t.workflowId = b.memory.workflow? t.workflowId
  taken : t.id ∈ b'.taken ↔ t.id ∈ b.taken

namespace Agrees

variable {b' : Outset} (h : b.Agrees b' t)
include h

private theorem hasWorkflow_iff : b'.HasWorkflow t ↔ b.HasWorkflow t := by
  rw [HasWorkflow, h.workflow, h.engine, HasWorkflow]

private theorem fires_iff : b'.Fires t ↔ b.Fires t := by
  rw [Fires, h.hasWorkflow_iff, h.taken, h.now, Fires]

private theorem fails_iff : b'.Fails t ↔ b.Fails t := by
  rw [Fails, h.hasWorkflow_iff, h.taken, h.now, Fails]

private theorem blames_iff (failure : Id × FiringError) :
    b'.Blames t failure ↔ b.Blames t failure := by
  rw [Blames, h.workflow, h.engine, Blames]

private theorem afterwards_eq : b'.afterwards t = b.afterwards t := by
  rw [afterwards, afterwards, h.now]
  exact if_congr h.fires_iff rfl rfl

end Agrees

end Outset

namespace Mixed

def workflow : Workflow := { Hourly.workflow with id := .generated 1 }

/-- A trigger of a workflow for every minute. -/
def minutely (n : Nat) (workflowId : Id) (last : Option Time.Instant) : Trigger :=
  { id := .generated n, agentId := "", workflowId, type := .timeBased,
    config := .object [("interval", .nat 1)], lastTriggered := last, createdAt := ⟨0, 0⟩ }

/-- Of six triggers the first has no workflow, one is paused, one is not yet due, one is taken and
one has an invalid schedule. -/
def outset : Outset where
  engine := Hourly.engine
  now := ⟨90, 0⟩
  taken := [.generated 6]
  memory := {
    workflows := [⟨"", workflow⟩]
    triggers := [minutely 2 .zero none, { minutely 3 workflow.id none with status := .paused },
      minutely 4 workflow.id (some ⟨60, 0⟩), minutely 5 workflow.id (some ⟨30, 0⟩),
      minutely 6 workflow.id none, { minutely 7 workflow.id none with config := .null }] }

end Mixed

end Automation.Trigger
