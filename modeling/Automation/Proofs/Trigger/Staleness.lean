import Automation.Proofs.Trigger.Activity

/-!
# What a pass fires

A pass decides once which triggers are due, and then fires them one after the other. A trigger that
it fires was due when it was listed. When its turn comes it is read again but not judged again: it
is still due unless another activity has paused or stamped it in between, and then it is fired all
the same.
-/

namespace Automation.Trigger

open Process (Asks Course Ends)
open Interleaving (share)

/-- A pause or a stamp of the trigger has been recorded. -/
def hinders (id : Id) (x : Deed) : Prop :=
  (∃ u, x = ⟨.repository (.setStatus id .paused), .ok u⟩) ∨
    ∃ time u, x = ⟨.repository (.stampTrigger id time), .ok u⟩

/-- The request leaves the trigger as it is, whatever the answer. -/
def spares (id : Id) : ServiceRequest → Prop
  | .repository (.setStatus id' _) | .repository (.stampTrigger id' _) => id' ≠ id
  | _ => True

private theorem not_hinders {id : Id} {x : Deed} (h : spares id x.request) : ¬ hinders id x := by
  rintro (⟨u, rfl⟩ | ⟨time, u, rfl⟩)
  · exact h rfl
  · exact h rfl

def reads (id : Id) (r : ServiceRequest) : Prop :=
  r = .repository (.getTrigger id) ∨ ∃ workflowId, r = .repository (.getWorkflow workflowId)

section Parts

variable {engine e : Engine} {id : Id} {now : Time.Instant} {log : List Deed} {run : TriggeredRun}

private theorem prepare_reads (registry : Registry) (id : Id) :
    Asks (reads id) (prepare registry id) := by
  refine .ask (.inl rfl) ?_
  rintro (e | _ | t)
  · exact .done _
  · exact .done _
  · refine .ask (.inr ⟨t.workflowId, rfl⟩) ?_
    rintro (e | _ | w)
    · exact .done _
    · exact .done _
    · dsimp only [Process.andThen]
      split <;> exact .done _

private theorem fire_spares (engine : Engine) {id' : Id} (now : Time.Instant) (hne : id' ≠ id) :
    Asks (spares id) (fire engine id' now) := by
  refine .ask trivial fun free => ?_
  cases free with
  | false => exact .done _
  | true =>
    have hprepare : Asks (spares id) (prepare engine.registry id') := by
      refine (prepare_reads engine.registry id').mono ?_
      rintro r (rfl | ⟨_, rfl⟩) <;> trivial
    refine hprepare.bind ?_
    rintro (e | ⟨t, w⟩)
    · exact .ask trivial fun _ => .done _
    · refine .ask trivial fun executionId => .ask trivial fun _ => .ask hne ?_
      rintro (e | stamped) <;> exact .done _

private theorem prepare_found {registry : Registry} {found : Trigger × Workflow}
    (h : Ends (prepare registry id) log (.ok found)) :
    ∃ t later, log = ⟨.repository (.getTrigger id), .ok (some t)⟩ :: later := by
  obtain ⟨t?, later, rfl, h'⟩ := Ends.of_ask h
  rcases t? with e | _ | t
  · cases (Ends.of_done h').2
  · cases (Ends.of_done h').2
  · exact ⟨t, later, rfl⟩

private theorem startRun_launch {w : Workflow} {next : Unit → Serving (Except FiringError Firing)}
    (h : Course (startRun engine id now w) log (.ask (.launch e run) next)) :
    run.triggerId = id := by
  obtain ⟨executionId, log₁, -, h₁⟩ := Course.of_ask h nofun
  cases h₁ with
  | stay => rfl
  | move _ h₂ =>
    obtain ⟨stamped, log₃, -, h₃⟩ := Course.of_ask h₂ nofun
    cases stamped <;> cases (Course.of_done h₃).2

/-- A call that hands a trigger over to a run has claimed it and read it; nothing else that it has
asked matters to the trigger. -/
theorem fire_launch {next : Unit → Serving (Except FiringError Firing)}
    (h : Course (fire engine id now) log (.ask (.launch e run) next)) :
    run.triggerId = id ∧ ∃ t later,
      log = ⟨.claim id, true⟩ :: ⟨.repository (.getTrigger id), .ok (some t)⟩ :: later := by
  obtain ⟨free, log₁, rfl, h₁⟩ := Course.of_ask h nofun
  cases free with
  | false => cases h₁
  | true =>
    rcases Course.of_bind (p := prepare engine.registry id) h₁ with
      ⟨r, next', hprepare, heq⟩ | ⟨found, log₂, log₃, rfl, hprepare, h₃⟩
    · cases heq
      rcases (prepare_reads engine.registry id).of_course hprepare with hr | ⟨_, hr⟩ <;> cases hr
    · rcases found with e' | ⟨t', w⟩
      · obtain ⟨_, _, -, hdone⟩ := Course.of_ask h₃ nofun
        cases hdone
      · obtain ⟨t, later, rfl⟩ := prepare_found hprepare
        exact ⟨startRun_launch h₃, t, later ++ log₃, rfl⟩

private theorem fire_course {w : Workflow} (hw : w.revalidate engine.registry = .ok ())
    (t : Trigger) (executionId : Id) :
    ∃ next, Course (fire engine id now)
      [⟨.claim id, true⟩, ⟨.repository (.getTrigger id), .ok (some t)⟩,
        ⟨.repository (.getWorkflow t.workflowId), .ok (some w)⟩, ⟨.freshId, executionId⟩]
      (.ask (.launch engine ⟨id, executionId, w⟩) next) := by
  have hprepare : Ends (prepare engine.registry id)
      [⟨.repository (.getTrigger id), .ok (some t)⟩,
        ⟨.repository (.getWorkflow t.workflowId), .ok (some w)⟩] (.ok (t, w)) := by
    refine .move _ (.move _ ?_)
    dsimp only [Process.andThen]
    rw [hw]
    exact .stay _
  obtain ⟨next, hstart⟩ : ∃ next, Course (startRun engine id now w) [⟨.freshId, executionId⟩]
      (.ask (.launch engine ⟨id, executionId, w⟩) next) := by
    apply Exists.intro
    exact .move _ (.stay _)
  refine ⟨next, .move _ ?_⟩
  change Course (prepare engine.registry id >>= _) _ _
  exact hprepare.bind.trans hstart

private theorem fireAll_launch {report : PassReport} {ts : List Trigger}
    {next : Unit → Serving PassReport} (hts : (ts.map (·.id)).Nodup)
    (h : Course (fireAll engine now report ts) log (.ask (.launch e run) next)) :
    ∃ t ∈ ts, t.id = run.triggerId ∧ ∃ earlier t' later,
      log = earlier ++ ⟨.repository (.getTrigger run.triggerId), .ok (some t')⟩ :: later ∧
        ∀ x ∈ earlier, ¬ hinders run.triggerId x := by
  induction ts generalizing report log with
  | nil => cases h
  | cons t ts ih =>
    rw [List.map_cons, List.nodup_cons] at hts
    rcases Course.of_bind h with ⟨r, next', hfire, heq⟩ | ⟨outcome, log₁, log₂, rfl, hfire, hrest⟩
    · cases heq
      obtain ⟨hid, t', later, rfl⟩ := fire_launch hfire
      refine ⟨t, List.mem_cons_self, hid.symm, [⟨.claim t.id, true⟩], t', later,
        by rw [hid]; rfl, ?_⟩
      simp [hinders]
    · have hlater : ∃ report', Course (fireAll engine now report' ts) log₂
          (.ask (.launch e run) next) := by
        cases outcome <;> exact ⟨_, hrest⟩
      obtain ⟨report', hlater⟩ := hlater
      obtain ⟨u, hu, hid, earlier, t', later, rfl, hearlier⟩ := ih hts.2 hlater
      have hne : t.id ≠ run.triggerId := by
        intro heq
        exact hts.1 (heq.trans hid.symm ▸ List.mem_map_of_mem hu)
      refine ⟨u, List.mem_cons_of_mem t hu, hid, log₁ ++ earlier, t', later, by simp, ?_⟩
      intro x hx
      rcases List.mem_append.mp hx with hx | hx
      · exact not_hinders ((fire_spares engine now hne).course hfire x hx)
      · exact hearlier x hx

/-- A pass that hands a trigger over has listed it as due. After that it reads it, and between the
two it does nothing about it. -/
theorem pass_launch {next : Unit → Serving (Except RepositoryError PassReport)}
    (h : Course (pass engine now) log (.ask (.launch e run) next)) :
    ∃ listed rest, log = ⟨.repository .activeTriggers, .ok listed⟩ :: rest ∧
      ((listed.map (·.id)).Nodup → ∃ t ∈ listed, t.id = run.triggerId ∧ t.isDue now = true ∧
        ∃ earlier t' later,
          rest = earlier ++ ⟨.repository (.getTrigger run.triggerId), .ok (some t')⟩ :: later ∧
            ∀ x ∈ earlier, ¬ hinders run.triggerId x) := by
  obtain ⟨listed, log₁, rfl, h₁⟩ := Course.of_ask h nofun
  rcases listed with e' | listed
  · cases h₁
  · obtain ⟨taken, log₂, rfl, h₂⟩ := Course.of_ask h₁ nofun
    refine ⟨listed, _, rfl, fun hlisted => ?_⟩
    let found := listed.filter fun t => t.isDue now && !taken.contains t.id
    have hfound : (found.map (·.id)).Nodup := hlisted.sublist (List.filter_sublist.map _)
    obtain ⟨next', hfire⟩ := Course.of_bind_done (p := fireAll engine now {} found) h₂
    obtain ⟨t, ht, hid, earlier, t', later, rfl, hearlier⟩ := fireAll_launch hfound hfire
    obtain ⟨hmem, hdue⟩ := List.mem_filter.mp ht
    refine ⟨t, hmem, hid, (Bool.and_eq_true_iff.mp hdue).1, ⟨.claimed, taken⟩ :: earlier, t',
      later, rfl, ?_⟩
    intro x hx
    rcases List.mem_cons.mp hx with rfl | hx
    · exact not_hinders trivial
    · exact hearlier x hx

end Parts

/-! ## Beside other activities -/

section Reached

variable {ρ : Type} {engine : Engine} {rep : Answering ρ} {valid : ρ → Prop}
  {stored : ρ → Id → Option Trigger} {id : Id} {now : Time.Instant} {t : Trigger}
  {log : List (Interleaving.Event ServiceRequest ServiceRequest.Answer)}
  {s u : Interleaving.State Activity (Shared ρ) ServiceRequest ServiceRequest.Answer
    Activity.Result}

private theorem status_of_isDue (h : t.isDue now = true) : t.status = .active := by
  cases hstatus : t.status with
  | active => rfl
  | paused => simp [isDue, checkDue, isActive, hstatus] at h

private theorem effect_eq {r : RepositoryRequest} {a : r.Answer} (hdue : t.isDue now = true)
    (h : ¬ hinders id ⟨.repository r, a⟩) : r.effect id a t = t := by
  rcases a with e | u
  · exact r.effect_error id e t
  cases r with
  | setStatus id' status =>
    by_cases hid : id' = id
    · subst hid
      cases status with
      | active => simp [RepositoryRequest.effect, ← status_of_isDue hdue]
      | paused => exact absurd (.inl ⟨u, rfl⟩) h
    · exact if_neg hid
  | stampTrigger id' time =>
    by_cases hid : id' = id
    · subst hid
      exact absurd (.inr ⟨time, u, rfl⟩) h
    · exact if_neg hid
  | _ => rfl

private theorem valid_of_course (hrep : KeepsTriggers rep valid stored)
    (hs : valid s.shared.repository) (h : (activities engine rep).Course s log u) :
    valid u.shared.repository := by
  induction h with
  | stay => exact hs
  | move _ m ih =>
    cases m with
    | join _ => exact ih
    | answer _ ha =>
      rcases ha.repository with ⟨r, a, -, ha⟩ | heq
      · exact hrep.preserves ih ha
      · exact heq.symm ▸ ih

private theorem stored_of_course (hrep : KeepsTriggers rep valid stored)
    (hs : valid s.shared.repository)
    (hstored : stored s.shared.repository id = some t) (hdue : t.isDue now = true)
    (h : (activities engine rep).Course s log u) (hlog : ∀ x ∈ log, ¬ hinders id x.2) :
    stored u.shared.repository id = some t := by
  induction h with
  | stay => exact hstored
  | move hc m ih =>
    have hvalid := valid_of_course hrep hs hc
    have hsame := ih fun x hx => hlog x (List.mem_append_left _ hx)
    cases m with
    | join _ => exact hsame
    | @answer _ _ _ n _ _ r _ a _ ha =>
      rcases ha.repository with ⟨r', a', heq, ha⟩ | heq
      · have hnot : ¬ hinders id ⟨r, a⟩ := hlog (n, ⟨r, a⟩) (by simp)
        have hkept := hrep.kept hvalid ha hsame
        rw [effect_eq hdue (heq ▸ hnot)] at hkept
        exact hkept
      · exact heq.symm ▸ hsame

/-- A trigger that was due and of which one party says nothing is still due later, or somebody else
has paused or stamped it. -/
theorem isDue_or_hindered (hrep : KeepsTriggers rep valid stored) (hs : valid s.shared.repository)
    (hstored : stored s.shared.repository id = some t) (hdue : t.isDue now = true)
    (h : (activities engine rep).Course s log u) {n : Nat}
    (hn : ∀ x ∈ share n log, ¬ hinders id x) {found : Trigger}
    (hfound : stored u.shared.repository id = some found) :
    found.isDue now = true ∨ ∃ x ∈ log, x.1 ≠ n ∧ hinders id x.2 := by
  by_cases hother : ∃ x ∈ log, x.1 ≠ n ∧ hinders id x.2
  · exact .inr hother
  · have hnone : ∀ x ∈ log, ¬ hinders id x.2 := by
      intro x hx hhinders
      by_cases hx' : x.1 = n
      · exact hn x.2 (Interleaving.mem_share hx hx') hhinders
      · exact hother ⟨x, hx, hx', hhinders⟩
    have hsame := stored_of_course hrep hs hstored hdue h hnone
    cases hfound.symm.trans hsame
    exact .inl hdue

/-- When the turn of a free trigger comes it is handed over, whatever is stored of it then. -/
theorem turn_fires {n : Nat} {p : Ongoing} {k : Except FiringError Firing → Serving Activity.Result}
    {found : Trigger} {w : Workflow} (hp : s.parties[n]? = some p)
    (hrest : p.rest = (fire engine id now >>= k)) (hfree : id ∉ s.shared.taken)
    (hfound : rep s.shared.repository (.getTrigger id) (.ok (some found)) s.shared.repository)
    (hworkflow : rep s.shared.repository (.getWorkflow found.workflowId) (.ok (some w))
      s.shared.repository)
    (hw : w.revalidate engine.registry = .ok ()) (executionId : Id) :
    ∃ u v q, (activities engine rep).Course s
        [(n, ⟨.claim id, true⟩), (n, ⟨.repository (.getTrigger id), .ok (some found)⟩),
          (n, ⟨.repository (.getWorkflow found.workflowId), .ok (some w)⟩),
          (n, ⟨.freshId, executionId⟩)] u ∧
      u.parties[n]? = some q ∧ q.task = p.task ∧
      (activities engine rep).Move u [(n, ⟨.launch engine ⟨id, executionId, w⟩, ()⟩)] v := by
  obtain ⟨task, past, rest⟩ := p
  cases hrest
  obtain ⟨next, hfire⟩ : ∃ next, Course (fire engine id now) _
    (.ask (.launch engine ⟨id, executionId, w⟩) next) := fire_course hw found executionId
  let taken : Shared ρ := ⟨id :: s.shared.taken, s.shared.repository⟩
  let acts := activities engine rep
  have hclaim : acts.answers s.shared (.claim id) true taken :=
    ⟨(Claims.claim_of_not_mem hfree).symm, rfl⟩
  have hread : acts.answers taken (.repository (.getTrigger id)) (.ok (some found)) taken :=
    ⟨rfl, hfound⟩
  have hlook : acts.answers taken (.repository (.getWorkflow found.workflowId)) (.ok (some w))
    taken := ⟨rfl, hworkflow⟩
  have hname : acts.answers taken .freshId executionId taken := rfl
  have hserves : acts.Serves s.shared
      [⟨.claim id, true⟩, ⟨.repository (.getTrigger id), .ok (some found)⟩,
        ⟨.repository (.getWorkflow found.workflowId), .ok (some w)⟩, ⟨.freshId, executionId⟩]
      taken :=
    .cons hclaim (.cons hread (.cons hlook (.cons hname (.nil taken))))
  obtain ⟨u, hcourse, hparty, -⟩ := Interleaving.Course.of_party hfire.bind hp hserves
  have hlaunch : (activities engine rep).answers u.shared
    (.launch engine ⟨id, executionId, w⟩) () u.shared := rfl
  exact ⟨u, _, _, hcourse, hparty, rfl, .answer hparty hlaunch⟩

/-- Whenever a pass hands a trigger over to a run, it has listed it as due, and later read it again
as it was stored then; if it was no longer due, somebody else has paused or stamped it in between.
That does not keep it from being fired: a free trigger whose turn it is is handed over whatever is
stored of it. -/
theorem pass_fires (hrep : KeepsTriggers rep valid stored) {m : ρ} (hm : valid m)
    (h : (activities engine rep).Reaches ⟨[], m⟩ log s) {n : Nat} {p : Ongoing}
    (hp : s.parties[n]? = some p) (htask : p.task = .pass now) :
    (∀ e run u, (activities engine rep).Move s [(n, ⟨.launch e run, ()⟩)] u →
      ∃ before listed between found after,
        log = before ++ (n, ⟨.repository .activeTriggers, .ok listed⟩) :: (between ++
          (n, ⟨.repository (.getTrigger run.triggerId), .ok (some found)⟩) :: after) ∧
        (∃ t ∈ listed, t.id = run.triggerId ∧ t.isDue now = true) ∧
        (∃ s', (activities engine rep).Reaches ⟨[], m⟩
            (before ++ (n, ⟨.repository .activeTriggers, .ok listed⟩) :: between) s' ∧
          stored s'.shared.repository run.triggerId = some found) ∧
        (found.isDue now = true ∨ ∃ x ∈ between, x.1 ≠ n ∧ hinders run.triggerId x.2)) ∧
    ∀ id k found w executionId, p.rest = (fire engine id now >>= k) → id ∉ s.shared.taken →
      rep s.shared.repository (.getTrigger id) (.ok (some found)) s.shared.repository →
      rep s.shared.repository (.getWorkflow found.workflowId) (.ok (some w)) s.shared.repository →
      w.revalidate engine.registry = .ok () →
      ∃ u v, (activities engine rep).Course s
          [(n, ⟨.claim id, true⟩), (n, ⟨.repository (.getTrigger id), .ok (some found)⟩),
            (n, ⟨.repository (.getWorkflow found.workflowId), .ok (some w)⟩),
            (n, ⟨.freshId, executionId⟩)] u ∧
        (activities engine rep).Move u [(n, ⟨.launch engine ⟨id, executionId, w⟩, ()⟩)] v := by
  refine ⟨fun e run u hmove => ?_, ?_⟩
  · obtain ⟨q, next, hq, hrest, -⟩ := hmove.of_event
    cases hp.symm.trans hq
    have hcourse := h.share_course hp
    rw [htask, hrest] at hcourse
    obtain ⟨next', hpass⟩ := Course.of_bind_done (p := pass engine now) hcourse
    obtain ⟨listed, rest, hasked, hturn⟩ := pass_launch hpass
    -- the pass lists the triggers
    have hshare : share n log = [] ++ ⟨.repository .activeTriggers, .ok listed⟩ :: rest := hasked
    obtain ⟨before, log', rfl, -, hlog'⟩ := Interleaving.share_eq_append hshare
    obtain ⟨s₁, s₂, hbefore, hlist, hlater⟩ := Interleaving.Course.split h
    obtain ⟨_, _, _, _, ha, -⟩ := hlist.of_event
    have hvalid₁ := valid_of_course hrep hm hbefore
    have hvalid₂ := hrep.preserves hvalid₁ ha.2
    obtain ⟨hnodup, hlisted⟩ := hrep.listed hvalid₁ ha.2
    obtain ⟨t, ht, hid, hdue, earlier, found, later, rfl, hearlier⟩ := hturn hnodup
    have hstill : stored s₂.shared.repository run.triggerId = some t :=
      hrep.kept hvalid₁ ha.2 (hid ▸ hlisted t ht)
    -- it reads the one whose turn it is
    obtain ⟨between, after, rfl, hbetween, -⟩ := Interleaving.share_eq_append hlog'
    obtain ⟨s₃, s₄, hmeanwhile, hread, -⟩ := Interleaving.Course.split hlater
    obtain ⟨_, _, _, _, ha', -⟩ := hread.of_event
    have hfound := hrep.got (valid_of_course hrep hvalid₂ hmeanwhile) ha'.2
    have hreaches := (hbefore.move hlist).trans hmeanwhile
    rw [List.append_assoc] at hreaches
    rw [← hbetween] at hearlier
    exact ⟨before, listed, between, found, after, rfl, ⟨t, ht, hid, hdue⟩, ⟨s₃, hreaches, hfound⟩,
      isDue_or_hindered hrep hvalid₂ hstill hdue hmeanwhile hearlier hfound⟩
  · intro id k found w executionId hrest hfree hfound hworkflow hw
    obtain ⟨u, v, -, hcourse, -, -, hmove⟩ :=
      turn_fires hp hrest hfree hfound hworkflow hw executionId
    exact ⟨u, v, hcourse, hmove⟩

end Reached

/-! ## A trigger that is due every hour -/

namespace Hourly

/-- An engine with a board to post on. -/
def engine : Engine := ⟨⟨[("board", ⟨"board", "", [⟨"post", "", [], []⟩]⟩)]⟩, {}⟩

def workflow : Workflow :=
  ⟨schemaVersion, .zero, "post", none, [{ id := "a", driver := "board", operation := "post" }],
    [("a", [])], .failFast, [], { isValid := true }, ⟨0, 0⟩⟩

/-- A trigger that has never fired. -/
def trigger (status : TriggerStatus) : Trigger :=
  { id := .zero, agentId := "", workflowId := .zero, type := .timeBased,
    config := .record [("interval", .nat 60)], status, createdAt := ⟨0, 0⟩ }

def memory (status : TriggerStatus) : Memory :=
  { workflows := [⟨"", workflow⟩], triggers := [trigger status] }

/-- The activities around the trigger. -/
abbrev acts : Interleaving Activity (Shared Memory) ServiceRequest ServiceRequest.Answer
    Activity.Result :=
  activities engine Memory.answering

def firing : Serving (Except RepositoryError PassReport) := do
  return .ok (← fireAll engine ⟨0, 0⟩ {} [trigger .active])

/-- A pass that has listed the trigger. -/
def listed : Ongoing :=
  ⟨.pass ⟨0, 0⟩, [⟨.repository .activeTriggers, .ok [trigger .active]⟩, ⟨.claimed, []⟩],
    do return .passed (← firing)⟩

private theorem reaches_listed :
    acts.Reaches ⟨[], memory .active⟩
      [(0, ⟨.repository .activeTriggers, .ok [trigger .active]⟩), (0, ⟨.claimed, []⟩)]
      ⟨[listed], ⟨[], memory .active⟩⟩ := by
  have hpass : acts.enters (.pass ⟨0, 0⟩) := rfl
  have hlist : acts.answers ⟨[], memory .active⟩ (.repository .activeTriggers)
    (.ok [trigger .active]) ⟨[], memory .active⟩ := ⟨rfl, .inl rfl⟩
  have hnone : acts.answers ⟨[], memory .active⟩ .claimed [] ⟨[], memory .active⟩ := ⟨rfl, rfl⟩
  have joined : acts.Reaches ⟨[], memory .active⟩ [] _ := .move .stay (.join hpass)
  have asked := joined.move (.answer (n := 0) rfl hlist)
  have answered := asked.move (.answer (n := 0) rfl hnone)
  exact answered

private theorem rest_listed : ∃ k, listed.rest = (fire engine .zero ⟨0, 0⟩ >>= k) := by
  have hrest : listed.rest = ((fireAll engine ⟨0, 0⟩ {} [trigger .active] >>=
    fun report => .done (.ok report)) >>= fun r => .done (.passed r)) := rfl
  rw [hrest, fireAll, Process.bind_assoc, Process.bind_assoc]
  exact ⟨_, rfl⟩

private theorem fires (status : TriggerStatus) (others : List Ongoing) :
    ∃ u v q, acts.Course ⟨listed :: others, ⟨[], memory status⟩⟩
        [(0, ⟨.claim .zero, true⟩),
          (0, ⟨.repository (.getTrigger .zero), .ok (some (trigger status))⟩),
          (0, ⟨.repository (.getWorkflow .zero), .ok (some workflow)⟩),
          (0, ⟨.freshId, Id.zero⟩)] u ∧
      u.parties[0]? = some q ∧ q.task = .pass ⟨0, 0⟩ ∧
      acts.Move u [(0, ⟨.launch engine ⟨.zero, .zero, workflow⟩, ()⟩)] v := by
  obtain ⟨k, hrest⟩ := rest_listed
  have hfound : Memory.answering (memory status) (.getTrigger .zero) (.ok (some (trigger status)))
    (memory status) := .inl rfl
  have hworkflow : Memory.answering (memory status) (.getWorkflow .zero) (.ok (some workflow))
    (memory status) := .inl rfl
  exact turn_fires rfl hrest List.not_mem_nil hfound hworkflow rfl .zero

end Hourly

open Hourly

/-- A pass that has listed the trigger fires it, having listed it as due and read it again. -/
theorem pass_fires_hourly :
    (∃ k, listed.rest = (fire engine .zero ⟨0, 0⟩ >>= k) ∧
      ∃ u v, acts.Course ⟨[listed], ⟨[], memory .active⟩⟩
          [(0, ⟨.claim .zero, true⟩),
            (0, ⟨.repository (.getTrigger .zero), .ok (some (trigger .active))⟩),
            (0, ⟨.repository (.getWorkflow .zero), .ok (some workflow)⟩),
            (0, ⟨.freshId, Id.zero⟩)] u ∧
        acts.Move u [(0, ⟨.launch engine ⟨.zero, .zero, workflow⟩, ()⟩)] v) ∧
    ∃ log u v, acts.Reaches ⟨[], memory .active⟩ log u ∧
      acts.Move u [(0, ⟨.launch engine ⟨.zero, .zero, workflow⟩, ()⟩)] v ∧
      ∃ before listed between found after,
        log = before ++ (0, ⟨.repository .activeTriggers, .ok listed⟩) :: (between ++
          (0, ⟨.repository (.getTrigger .zero), .ok (some found)⟩) :: after) ∧
        (∃ t ∈ listed, t.id = .zero ∧ t.isDue ⟨0, 0⟩ = true) ∧
        (found.isDue ⟨0, 0⟩ = true ∨ ∃ x ∈ between, x.1 ≠ 0 ∧ hinders .zero x.2) := by
  obtain ⟨k, hrest⟩ := rest_listed
  have hvalid : (memory .active).Distinct := by decide
  have hfires := (pass_fires Memory.keepsTriggers hvalid reaches_listed (n := 0) rfl rfl).2 .zero k
    (trigger .active) workflow .zero hrest List.not_mem_nil (.inl rfl) (.inl rfl) rfl
  obtain ⟨u, v, q, hcourse, hq, htask, hmove⟩ := fires .active []
  have hreaches := reaches_listed.trans hcourse
  obtain ⟨before, ts, between, found, after, hlog, hdue, -, hstill⟩ :=
    (pass_fires Memory.keepsTriggers hvalid hreaches hq htask).1 _ _ _ hmove
  exact ⟨⟨k, hrest, hfires⟩, _, u, v, hreaches, hmove, before, ts, between, found, after, hlog,
    hdue, hstill⟩

/-- A trigger that is paused after a pass has listed it is fired all the same. -/
theorem pass_fires_paused :
    ∃ u v q, acts.Reaches ⟨[], memory .active⟩
        [(0, ⟨.repository .activeTriggers, .ok [trigger .active]⟩), (0, ⟨.claimed, []⟩),
          (1, ⟨.repository (.setStatus .zero .paused), .ok ()⟩),
          (0, ⟨.claim .zero, true⟩),
          (0, ⟨.repository (.getTrigger .zero), .ok (some (trigger .paused))⟩),
          (0, ⟨.repository (.getWorkflow .zero), .ok (some workflow)⟩),
          (0, ⟨.freshId, Id.zero⟩)] u ∧
      u.parties[0]? = some q ∧ q.task = .pass ⟨0, 0⟩ ∧
      acts.Move u [(0, ⟨.launch engine ⟨.zero, .zero, workflow⟩, ()⟩)] v ∧
      (trigger .paused).isDue ⟨0, 0⟩ = false := by
  have hpause : acts.enters (.pause .zero) := rfl
  have hpaused : acts.answers ⟨[], memory .active⟩ (.repository (.setStatus .zero .paused))
    (.ok ()) ⟨[], memory .paused⟩ := ⟨rfl, .inl rfl⟩
  have joined := reaches_listed.move (.join hpause)
  have answered := joined.move (.answer (n := 1) rfl hpaused)
  obtain ⟨others, paused⟩ : ∃ others, acts.Reaches ⟨[], memory .active⟩
      [(0, ⟨.repository .activeTriggers, .ok [trigger .active]⟩), (0, ⟨.claimed, []⟩),
        (1, ⟨.repository (.setStatus .zero .paused), .ok ()⟩)]
      ⟨listed :: others, ⟨[], memory .paused⟩⟩ := ⟨_, answered⟩
  obtain ⟨u, v, q, hcourse, hq, htask, hmove⟩ := fires .paused others
  exact ⟨u, v, q, paused.trans hcourse, hq, htask, hmove, rfl⟩

end Automation.Trigger
