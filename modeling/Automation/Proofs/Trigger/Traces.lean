import Automation.Proofs.Trigger.Exclusion
import Automation.Proofs.Trigger.Acceptance
import Automation.Repository.Tables

/-!
# What a failed call leaves behind

A call that fails before it has started a run leaves everything as it was: it only reads, and it
gives back what it has taken. If it starts a run and only fails to record the time, the run goes on
all the same and keeps the trigger until it ends.
-/

namespace Automation

/-- Whether a request only reads. -/
def RepositoryRequest.isReading : RepositoryRequest → Bool
  | getWorkflow _ | getTrigger _ | activeTriggers | triggersOf _ => true
  | saveWorkflow _ _ | saveRun _ | createTrigger _ | stampTrigger _ _ | setStatus _ _ => false

/-- Every request is answered in some way, reading changes nothing, and neither does what fails. -/
structure Restrained {ρ : Type} (rep : Answering ρ) : Prop where
  answers (m : ρ) (r : RepositoryRequest) : ∃ a m', rep m r a m'
  reading {m m' : ρ} {r : RepositoryRequest} {a : r.Answer} : r.isReading = true → rep m r a m' →
    m' = m
  failure {m m' : ρ} {r : RepositoryRequest} {e : RepositoryError} : rep m r (.error e) m' → m' = m

namespace Memory

private theorem answer_of_isReading {r : RepositoryRequest} (hr : r.isReading = true) (m : Memory) :
    (answer r m).2 = m := by
  cases r <;> first | rfl | cases hr

private theorem written_error {m : Memory} {r : Except RepositoryError Memory} {e : RepositoryError}
    (h : (m.written r).1 = .error e) : (m.written r).2 = m := by
  cases r with
  | ok m' => cases h
  | error e' => rfl

private theorem answer_error {r : RepositoryRequest} {m : Memory} {e : RepositoryError}
    (h : (answer r m).1 = .error e) : (answer r m).2 = m := by
  cases r with
  | getWorkflow _ | getTrigger _ | activeTriggers | triggersOf _ => rfl
  | saveWorkflow _ _ | saveRun _ => cases h
  | createTrigger _ => exact written_error h
  | stampTrigger _ _ => exact written_error h
  | setStatus _ _ => exact written_error h

private theorem restrained : Restrained answering where
  answers m r := ⟨_, _, .inl rfl⟩
  reading := by
    rintro m m' r a hr (h | ⟨-, -, h⟩)
    · exact (Prod.mk.inj h).2.trans (answer_of_isReading hr m)
    · exact h
  failure := by
    rintro m m' r e (h | ⟨-, -, h⟩)
    · obtain ⟨he, rfl⟩ := Prod.mk.inj h
      exact answer_error he.symm
    · exact h

end Memory

namespace Store.Database

/-- A request is answered at some time, or fails and changes nothing. -/
def answering : Answering Database :=
  fun db r a db' => (∃ now, (a, db') = answer now r db) ∨ ∃ e, a = .error e ∧ db' = db

private theorem answer_of_isReading {r : RepositoryRequest} (hr : r.isReading = true) (now : Int)
    (db : Database) : (answer now r db).2 = db := by
  cases r <;> first | rfl | cases hr

private theorem changed_error {db : Database} {f : Store.Error → RepositoryError} {w : Write Unit}
    {e : RepositoryError} (h : (db.change f w).1 = .error e) : (db.change f w).2 = db := by
  unfold change at h ⊢
  split
  · next hw =>
    rw [hw] at h
    cases h
  · rfl

private theorem answer_error {now : Int} {r : RepositoryRequest} {db : Database}
    {e : RepositoryError} (h : (answer now r db).1 = .error e) : (answer now r db).2 = db := by
  cases r with
  | getWorkflow _ | getTrigger _ | activeTriggers | triggersOf _ => rfl
  | saveWorkflow _ _ => exact changed_error h
  | saveRun _ => exact changed_error h
  | createTrigger _ => exact changed_error h
  | stampTrigger _ _ => exact changed_error h
  | setStatus _ _ => exact changed_error h

theorem restrained : Restrained answering where
  answers db r := ⟨_, _, .inl ⟨0, rfl⟩⟩
  reading := by
    rintro db db' r a hr (⟨now, h⟩ | ⟨-, -, h⟩)
    · exact (Prod.mk.inj h).2.trans (answer_of_isReading hr now db)
    · exact h
  failure := by
    rintro db db' r e (⟨now, h⟩ | ⟨-, -, h⟩)
    · obtain ⟨he, rfl⟩ := Prod.mk.inj h
      exact answer_error he.symm
    · exact h

end Store.Database

/-- Whether a request only reads in the repository. -/
def ServiceRequest.looksUp : ServiceRequest → Bool
  | repository r => r.isReading
  | _ => false

/-- Whether a run has been started and only the time could not be recorded. -/
def FiringError.isNotStamped : FiringError → Bool
  | notStamped _ _ _ => true
  | _ => false

namespace Trigger

open Process (Ends)
open Interleaving (share)

section Alone

variable {ρ : Type} {rep : Answering ρ} {engine : Engine} {registry : Registry} {id : Id}
  {now : Time.Instant} {log : List Deed} {s s' : Shared ρ}

/-- However the exchange comes about, nothing is changed. -/
def Idle (rep : Answering ρ) (x : Deed) : Prop :=
  ∀ s s' : Shared ρ, s.answers rep x.request x.answer s' → s' = s

/-- However the exchange comes about, the repository and the other triggers are left as they are. -/
def Spares (rep : Answering ρ) (id : Id) (x : Deed) : Prop :=
  ∀ s s' : Shared ρ, s.answers rep x.request x.answer s' →
    s'.repository = s.repository ∧ ∀ other ≠ id, (other ∈ s'.taken ↔ other ∈ s.taken)

private theorem Idle.spares {x : Deed} (h : Idle rep x) : Spares rep id x := by
  intro s s' ha
  rw [h s s' ha]
  exact ⟨rfl, fun _ _ => .rfl⟩

private theorem spares_claim {free : Bool} : Spares rep id ⟨.claim id, free⟩ := by
  rintro s s' ⟨hclaim, hrepository⟩
  refine ⟨hrepository, fun other hne => ?_⟩
  rw [(Claims.of_claim hclaim).2]
  cases free <;> simp [hne]

private theorem spares_release {a : Unit} : Spares rep id ⟨.release id, a⟩ := by
  rintro s s' ⟨htaken, hrepository⟩
  refine ⟨hrepository, fun other hne => ?_⟩
  rw [htaken, Claims.mem_release hne]

private theorem idle_of_looksUp (hrep : Restrained rep) {r : ServiceRequest} (hr : r.looksUp = true)
    (a : r.Answer) : Idle rep ⟨r, a⟩ := by
  intro s s' h
  cases r with
  | repository r => exact Shared.ext h.1 (hrep.reading hr h.2)
  | _ => cases hr

private theorem idle_of_failed (hrep : Restrained rep) (r : RepositoryRequest)
    (e : RepositoryError) : Idle rep ⟨.repository r, .error e⟩ :=
  fun _ _ h => Shared.ext h.1 (hrep.failure h.2)

private theorem idle_freshId (executionId : Id) : Idle rep ⟨.freshId, executionId⟩ := fun _ _ h => h

private theorem idle_launch (run : TriggeredRun) :
    Idle rep ⟨.launch engine run, ()⟩ := fun _ _ h => h

private theorem serves_of_idle {xs later : List Deed} (hidle : ∀ x ∈ xs, Idle rep x)
    (h : (activities engine rep).Serves s (xs ++ later) s') :
    (activities engine rep).Serves s later s' := by
  induction xs with
  | nil => exact h
  | cons x xs ih =>
    cases h with
    | cons ha hrest =>
      cases hidle x List.mem_cons_self _ _ ha
      exact ih (fun y hy => hidle y (List.mem_cons_of_mem x hy)) hrest

/-! ## The call alone -/

private theorem Prepares.looksUp {found : Except FiringError (Trigger × Workflow)}
    (h : Prepares registry id log found) : ∀ x ∈ log, x.request.looksUp = true := by
  cases h <;> simp [ServiceRequest.looksUp, RepositoryRequest.isReading]

private theorem Prepares.idle (hrep : Restrained rep)
    {found : Except FiringError (Trigger × Workflow)}
    (h : Prepares registry id log found) : ∀ x ∈ log, Idle rep x :=
  fun x hx => idle_of_looksUp hrep (h.looksUp x hx) x.answer

private theorem Prepares.isNotStamped {e : FiringError} (h : Prepares registry id log (.error e)) :
    e.isNotStamped = false := by
  cases h <;> rfl

private theorem Fires.notStamped (hrep : Restrained rep) {i executionId : Id} {e : RepositoryError}
    (h : Fires engine id now log (.error (.notStamped i executionId e))) :
    ∃ rest, log = ⟨.claim id, true⟩ :: rest ∧ ∀ x ∈ rest, Idle rep x := by
  cases h with
  | givesBack hprepares => cases hprepares.isNotStamped
  | @startsUnstamped _ _ w _ _ hprepares =>
    have hstarted : ∀ x ∈ [⟨.freshId, executionId⟩, ⟨.launch engine ⟨id, executionId, w⟩, ()⟩,
        ⟨.repository (.stampTrigger id now), .error e⟩], Idle rep x :=
      List.forall_mem_cons.mpr ⟨idle_freshId executionId,
        List.forall_mem_cons.mpr ⟨idle_launch _,
          List.forall_mem_singleton.mpr (idle_of_failed hrep _ e)⟩⟩
    exact ⟨_, rfl, List.forall_mem_append.mpr ⟨hprepares.idle hrep, hstarted⟩⟩

private theorem Fires.spares (hrep : Restrained rep) {e : FiringError}
    (h : Fires engine id now log (.error e)) : ∀ x ∈ log, Spares rep id x := by
  cases h with
  | refused => exact List.forall_mem_singleton.mpr spares_claim
  | givesBack hprepares =>
    refine List.forall_mem_cons.mpr ⟨spares_claim, List.forall_mem_append.mpr ⟨?_, ?_⟩⟩
    · exact fun x hx => (hprepares.idle hrep x hx).spares
    · exact List.forall_mem_singleton.mpr spares_release
  | startsUnstamped executionId e hprepares =>
    have h : Fires engine id now _ _ := .startsUnstamped executionId e hprepares
    obtain ⟨rest, hlog, hidle⟩ := h.notStamped hrep
    rw [hlog]
    exact List.forall_mem_cons.mpr ⟨spares_claim, fun x hx => (hidle x hx).spares⟩

private theorem Fires.drives {e : FiringError} (h : Fires engine id now log (.error e))
    (he : e.isNotStamped = false) : ∀ x ∈ log, x.request.drives = false := by
  have hlookup : ∀ r : ServiceRequest, r.looksUp = true → r.drives = false := by
    intro r hr
    cases r <;> first | rfl | cases hr
  cases h with
  | refused => exact List.forall_mem_singleton.mpr rfl
  | givesBack hprepares =>
    refine List.forall_mem_cons.mpr ⟨rfl, List.forall_mem_append.mpr ⟨?_, ?_⟩⟩
    · exact fun x hx => hlookup _ (hprepares.looksUp x hx)
    · exact List.forall_mem_singleton.mpr rfl
  | startsUnstamped _ _ _ => cases he

/-- Alone, a call that fails before it has started a run leaves everything as it was. -/
theorem Fires.unchanged (hrep : Restrained rep) {e : FiringError}
    (h : Fires engine id now log (.error e)) (he : e.isNotStamped = false)
    (hs : (activities engine rep).Serves s log s') : s' = s := by
  cases h with
  | refused =>
    cases hs with
    | cons hclaim hrest =>
      -- the trigger is somebody else's and is not given back
      cases hrest
      exact Shared.ext (Claims.of_claim hclaim.1).2 hclaim.2
  | givesBack hprepares =>
    cases hs with
    | cons hclaim hrest =>
      cases serves_of_idle (hprepares.idle hrep) hrest with
      | cons hrelease hrest =>
        cases hrest
        obtain ⟨hclaimed, hm⟩ := hclaim
        obtain ⟨hreleased, hm'⟩ := hrelease
        obtain ⟨hfree, htaken⟩ := Claims.of_claim hclaimed
        -- the trigger was free before it was claimed, so to give it back restores what was taken
        refine Shared.ext ?_ (hm'.trans hm)
        rw [hreleased, htaken, if_pos rfl, Claims.release_cons (hfree.mp rfl)]
  | startsUnstamped _ _ _ => cases he

/-- Alone, a call that only fails to record the time leaves the repository as it was, and the
trigger, which was free, taken. -/
theorem Fires.taken (hrep : Restrained rep) {i executionId : Id} {e : RepositoryError}
    (h : Fires engine id now log (.error (.notStamped i executionId e)))
    (hs : (activities engine rep).Serves s log s') :
    id ∉ s.taken ∧ s' = ⟨id :: s.taken, s.repository⟩ := by
  obtain ⟨rest, rfl, hidle⟩ := h.notStamped hrep
  cases hs with
  | cons hclaim hrest =>
    obtain ⟨hclaimed, hm⟩ := hclaim
    obtain ⟨hfree, htaken⟩ := Claims.of_claim hclaimed
    rw [← List.append_nil rest] at hrest
    cases serves_of_idle hidle hrest
    exact ⟨hfree.mp rfl, Shared.ext htaken hm⟩

end Alone

/-! ## The run that goes on -/

section Reached

variable {ρ : Type} {engine e : Engine} {rep : Answering ρ} {m : ρ} {run : TriggeredRun}
  {id : Id} {log later : List (Interleaving.Event ServiceRequest ServiceRequest.Answer)} {k : Nat}
  {past : List Deed} {s t u : Interleaving.State Activity (Shared ρ) ServiceRequest
    ServiceRequest.Answer Activity.Result}

private theorem taken_of_runs (h : (activities engine rep).Reaches ⟨[], m⟩ log s) {p : Ongoing}
    (hp : s.parties[k]? = some p) (hruns : p.runs id = true) : id ∈ s.shared.taken := by
  have hmem := List.mem_of_getElem? hp
  have hstanding := ((orderly_of_reaches h p hmem).runs_iff id).mp hruns
  have hin : id ∈ inHand s.parties := by
    refine List.mem_filterMap.mpr ⟨p, hmem, ?_⟩
    rw [hstanding]
    rfl
  exact (perm_of_reaches rfl h).1.mem_iff.mp hin

private theorem free_of_ended (h : (activities engine rep).Reaches ⟨[], m⟩ log s) {x : Deed}
    (hmove : (activities engine rep).Move s [(k, x)] t) {b : Activity.Result}
    (ht : t.parties[k]? = some ⟨.run e run, past, .done b⟩) :
    run.triggerId ∉ t.shared.taken := by
  obtain ⟨⟨task, past', rest⟩, next, hp, hask, -, -, hnew⟩ := hmove.of_event
  obtain ⟨rfl, -, -⟩ := Interleaving.Party.mk.inj (Option.some.inj (ht.symm.trans hnew))
  cases hask
  -- the last thing that a run asks is to give its trigger back
  have horderly := orderly_of_reaches h _ (List.mem_of_getElem? hp)
  have horderly' := orderly_of_reaches (h.move hmove) _ (List.mem_of_getElem? ht)
  exact released horderly horderly' hmove hp ht (by simp [Ongoing.runs]) rfl

/-- The party with this number is a run. It can go on to its end, which is always one that the
engine gives it, and its trigger is taken just until then. -/
structure Occupies (engine : Engine) (rep : Answering ρ) (run : TriggeredRun) (k : Nat)
    (u : Interleaving.State Activity (Shared ρ) ServiceRequest ServiceRequest.Answer
      Activity.Result) : Prop where
  joined : ∃ past rest, u.parties[k]? = some ⟨.run engine run, past, rest⟩
  canEnd : ∃ log u' past b, (activities engine rep).Course u log u' ∧
    u'.parties[k]? = some ⟨.run engine run, past, .done b⟩
  ends (log : List (Interleaving.Event ServiceRequest ServiceRequest.Answer)) (u' : _)
    (past : List Deed) (b : Activity.Result) : (activities engine rep).Course u log u' →
      u'.parties[k]? = some ⟨.run engine run, past, .done b⟩ →
      ∃ outcome, b = .ran outcome ∧ Runs engine run past outcome
  taken (past : List Deed) (r : ServiceRequest) (next : r.Answer → Serving Activity.Result) :
    u.parties[k]? = some ⟨.run engine run, past, .ask r next⟩ → run.triggerId ∈ u.shared.taken
  freed (x : Deed) (u' : _) (past : List Deed) (b : Activity.Result) :
    (activities engine rep).Move u [(k, x)] u' →
      u'.parties[k]? = some ⟨.run engine run, past, .done b⟩ → run.triggerId ∉ u'.shared.taken

private theorem occupies (hrep : Restrained rep)
    (hs : (activities engine rep).Reaches ⟨[], m⟩ log s)
    (hjoined : s.parties[k]? = some ((activities engine rep).newcomer (.run engine run)))
    (h : (activities engine rep).Course s later u) : Occupies engine rep run k u where
  joined := by
    obtain ⟨q, hq, -⟩ := h.party_course hjoined
    exact ⟨_, q, hq⟩
  canEnd := exists_run_end hrep.answers hjoined h
  ends log u' past b hmore hu := run_ended hjoined (h.trans hmore) hu
  taken past r next hp := taken_of_runs (hs.trans h) hp (by simp [Ongoing.runs])
  freed x u' past b hmove hp := free_of_ended (hs.trans h) hmove hp

/-- A call that fails leaves the repository and all other triggers alone. If it fails before it has
started a run, it calls no driver and leaves everything as it was. If it only fails to record the
time, the trigger was free and is taken, and the run that it has started, of the valid workflow that
it has read, goes on to the end that the engine gives it, and occupies the trigger until then. -/
theorem failed_fire_leaves_no_trace (hrep : Restrained rep) (engine : Engine) (id : Id)
    (now : Time.Instant) :
    (∀ log e, Ends (fire engine id now) log (.error e) →
      (∀ x ∈ log, Spares rep id x) ∧
      (e.isNotStamped = false → (∀ x ∈ log, x.request.drives = false) ∧
        ∀ s s', (activities engine rep).Serves s log s' → s' = s) ∧
      (e.isNotStamped = true → ∀ s s', (activities engine rep).Serves s log s' →
        id ∉ s.taken ∧ s' = ⟨id :: s.taken, s.repository⟩)) ∧
    ∀ (m : ρ) log s n past i executionId e, (activities engine rep).Reaches ⟨[], m⟩ log s →
      s.parties[n]? =
        some ⟨.fire id now, past, .done (.fired (.error (.notStamped i executionId e)))⟩ →
      ∃ t w before later k started,
        log = before ++ (n, ⟨.launch engine ⟨id, executionId, w⟩, ()⟩) :: later ∧
        (n, ⟨.repository (.getTrigger id), .ok (some t)⟩) ∈ before ∧
        (n, ⟨.repository (.getWorkflow t.workflowId), .ok (some w)⟩) ∈ before ∧
        w.revalidate engine.registry = .ok () ∧
        (activities engine rep).Reaches ⟨[], m⟩
          (before ++ [(n, ⟨.launch engine ⟨id, executionId, w⟩, ()⟩)]) started ∧
        (activities engine rep).Course started later s ∧
        ∀ log' u, (activities engine rep).Course started log' u →
          Occupies engine rep ⟨id, executionId, w⟩ k u := by
  refine ⟨fun log e h => ?_, fun m log s n past i executionId e h hp => ?_⟩
  · have hfires := fires_of_ends h
    refine ⟨hfires.spares hrep, fun he => ⟨hfires.drives he, fun s s' hs => ?_⟩,
      fun he s s' hs => ?_⟩
    · exact hfires.unchanged hrep he hs
    · cases e with
      | notStamped i executionId e => exact hfires.taken hrep hs
      | _ => cases he
  · have hfires := fires_of_reaches h hp
    generalize hshare : share n log = own at hfires
    cases hfires with
    | givesBack hprepares => cases hprepares.isNotStamped
    | startsUnstamped _ _ hprepares =>
      obtain ⟨before, later, k, started, rfl, htrigger, hworkflow, hvalid, -, hstarted, hjoined,
        hlater⟩ := launched_of_prepares h hprepares hshare
      exact ⟨_, _, before, later, k, started, rfl, htrigger, hworkflow, hvalid, hstarted, hlater,
        fun log' u hu => occupies hrep hstarted hjoined hu⟩

end Reached

open Hourly (engine acts)
open Reported

/-- An unknown trigger is given back. A run of a known one whose time is not recorded goes on and
occupies it until its result is recorded. -/
theorem failed_fire_leaves_no_trace_unstamped : Restrained Memory.answering ∧
    (∃ log e s', Ends (fire engine .zero ⟨0, 0⟩) log (.error e) ∧ e.isNotStamped = false ∧
      acts.Serves ⟨[.generated 1], {}⟩ log s' ∧ s' = ⟨[.generated 1], {}⟩) ∧
    ∃ log s past e, acts.Reaches ⟨[], memory { isValid := true } none⟩ log s ∧
      s.parties[0]? =
        some ⟨.fire .zero ⟨0, 0⟩, past, .done (.fired (.error (.notStamped .zero .zero e)))⟩ ∧
      ∃ w k, Occupies engine Memory.answering ⟨.zero, .zero, w⟩ k s ∧
        ∃ log' u past' result saved, acts.Course s log' u ∧
          u.parties[k]? = some ⟨.run engine ⟨.zero, .zero, w⟩, past', .done (.ran (.ok result))⟩ ∧
          ⟨.repository (.saveRun result), saved⟩ ∈ past' := by
  obtain ⟨halone, hrun⟩ := failed_fire_leaves_no_trace Memory.restrained engine .zero ⟨0, 0⟩
  refine ⟨Memory.restrained, ?_, ?_⟩
  · let before : Shared Memory := ⟨[.generated 1], {}⟩
    let taken : Shared Memory := ⟨[.zero, .generated 1], {}⟩
    let after : Shared Memory := ⟨Claims.release [.zero, .generated 1] .zero, {}⟩
    have hends : Ends (fire engine .zero ⟨0, 0⟩) [⟨.claim .zero, true⟩,
        ⟨.repository (.getTrigger .zero), .ok none⟩, ⟨.release .zero, ()⟩]
        (.error (.repository (.triggerNotFound .zero))) :=
      .move _ (.move _ (.move _ (.stay _)))
    have hclaim : acts.answers before (.claim .zero) true taken := ⟨rfl, rfl⟩
    have hunknown : acts.answers taken (.repository (.getTrigger .zero)) (.ok none) taken :=
      ⟨rfl, .inl rfl⟩
    have hrelease : acts.answers taken (.release .zero) () after := ⟨rfl, rfl⟩
    have hserves := Interleaving.Serves.cons (x := ⟨_, _⟩) hclaim
      (.cons (x := ⟨_, _⟩) hunknown (.cons (x := ⟨_, _⟩) hrelease (.nil after)))
    obtain ⟨-, hnothing, -⟩ := halone _ _ hends
    exact ⟨_, _, after, hends, rfl, hserves, (hnothing rfl).2 _ _ hserves⟩
  · let e : RepositoryError := .failed "disk full"
    have hreaches := reaches_started { isValid := true } (.inr ⟨e, rfl, rfl⟩)
    obtain ⟨t, w, before, later, k, started, hlog, -, -, -, -, hlater, hoccupies⟩ :=
      hrun _ _ _ 0 _ _ _ e hreaches rfl
    have hlaunch : (0, ⟨.launch engine ⟨.zero, .zero, w⟩, ()⟩) ∈
        (firing { isValid := true } (.error e)).map (0, ·) := by
      rw [hlog]
      simp
    obtain rfl : w = workflow { isValid := true } := by simpa [firing, run] using hlaunch
    have hoccupied := hoccupies later _ hlater
    obtain ⟨log', u, past', b, hcourse, hu⟩ := hoccupied.canEnd
    obtain ⟨outcome, rfl, hruns⟩ := hoccupied.ends log' u past' b hcourse hu
    cases hruns with
    | @accepted _ result saved _ _ =>
      exact ⟨_, _, _, e, hreaches, rfl, _, k, hoccupied, log', u, _, result, saved, hcourse, hu,
        by simp⟩
    | refused hrefused => cases hrefused

end Trigger

end Automation
