import Automation.Proofs.Trigger.Activity
import Mathlib.Data.List.Perm.Basic

/-!
# One run of a trigger at a time

A trigger is taken as long as a call holds it or a run of it goes on, and there is never more than
one of these.
-/

namespace Automation.Trigger

/-- How an activity stands to triggers: a call has none in hand, or holds one that it has claimed; a
run occupies its trigger until it has given it back. -/
inductive Standing where
  | free
  | holding (id : Id)
  | running (id : Id)
  | ended
deriving DecidableEq

namespace Standing

/-- The trigger that is kept from others. -/
def trigger? : Standing → Option Id
  | holding id | running id => some id
  | free | ended => none

def after : Standing → Deed → Standing
  | free, ⟨.claim id, true⟩ => holding id
  | holding _, ⟨.launch _ _, _⟩ | holding _, ⟨.release _, _⟩ => free
  | running _, ⟨.release _, _⟩ => ended
  | x, _ => x

/-- What is asked in each standing. A run asks nothing once it has given its trigger back. -/
def Allows : Standing → ServiceRequest → Prop
  | free, .release _ | free, .launch _ _ => False
  | holding _, .claim _ => False
  | holding id, .launch _ r => r.triggerId = id
  | holding id, .release id' | running id, .release id' => id' = id
  | running _, .claim _ | running _, .launch _ _ => False
  | ended, _ => False
  | _, _ => True

end Standing

/-- The rule by which activities ask. -/
def custody : Process.Rule ServiceRequest ServiceRequest.Answer Standing :=
  ⟨Standing.after, Standing.Allows⟩

/-- Whether a request changes how somebody stands to triggers. -/
def isTransfer : ServiceRequest → Bool
  | .claim _ | .release _ | .launch _ _ => true
  | _ => false

private theorem Standing.after_eq {r : ServiceRequest} (hr : isTransfer r = false) (x : Standing)
    (a : r.Answer) : x.after ⟨r, a⟩ = x := by
  cases x <;> cases r <;> simp_all [Standing.after, isTransfer]

private theorem Standing.foldl_call {x : Standing} (hx : x = free ∨ ∃ id, x = holding id)
    (log : List Deed) :
    log.foldl after x = free ∨ ∃ id, log.foldl after x = holding id := by
  induction log generalizing x with
  | nil => exact hx
  | cons e log ih =>
    apply ih
    rcases hx with rfl | ⟨id, rfl⟩ <;> unfold after <;> split <;> simp_all

private theorem Standing.foldl_run {x : Standing} {id : Id} (hx : x = running id ∨ x = ended)
    (log : List Deed) :
    log.foldl after x = running id ∨ log.foldl after x = ended := by
  induction log generalizing x with
  | nil => exact hx
  | cons e log ih =>
    apply ih
    rcases hx with rfl | rfl <;> unfold after <;> split <;> simp_all

open Process (Follows)

variable {engine : Engine} {id : Id} {now : Time.Instant} {x : Standing}

private theorem follows_ask {r : ServiceRequest} (hr : isTransfer r = false) (hx : x ≠ .ended) :
    Follows custody (fun y _ => y = x) x (.ask r .done) := by
  refine .ask ?_ fun a => .done (x.after_eq hr a)
  cases x <;> cases r <;> simp_all [custody, Standing.Allows, isTransfer]

private theorem prepare_follows (registry : Registry) (id : Id) (hx : x ≠ .ended) :
    Follows custody (fun y _ => y = x) x (prepare registry id) := by
  refine (follows_ask rfl hx).bind ?_
  rintro _ (e | _ | t) rfl
  · exact .done rfl
  · exact .done rfl
  · refine (follows_ask rfl hx).bind ?_
    rintro _ (e | _ | w) rfl
    · exact .done rfl
    · exact .done rfl
    · dsimp only
      split <;> exact .done rfl

private theorem startRun_follows (engine : Engine) (id : Id) (now : Time.Instant) (w : Workflow) :
    Follows custody (fun y _ => y = .free) (.holding id) (startRun engine id now w) := by
  refine (follows_ask (r := .freshId) rfl (by nofun)).bind ?_
  rintro _ executionId rfl
  refine .ask rfl fun _ => ?_
  refine (follows_ask (r := .repository (.stampTrigger id now)) rfl (by nofun)).bind ?_
  rintro _ (e | stamped) rfl
  · exact .done rfl
  · exact .done rfl

private theorem fire_follows (engine : Engine) (id : Id) (now : Time.Instant) :
    Follows custody (fun y _ => y = .free) .free (fire engine id now) := by
  refine .ask trivial fun free => ?_
  cases free with
  | false => exact .done rfl
  | true =>
    refine (prepare_follows engine.registry id (by nofun)).bind ?_
    rintro _ (e | ⟨t, w⟩) rfl
    · exact .ask rfl fun _ => .done rfl
    · exact startRun_follows engine id now w

private theorem fireAll_follows (engine : Engine) (now : Time.Instant) (report : PassReport)
    (ts : List Trigger) :
    Follows custody (fun y _ => y = .free) .free (fireAll engine now report ts) := by
  induction ts generalizing report with
  | nil => exact .done rfl
  | cons t ts ih =>
    refine (fire_follows engine t.id now).bind ?_
    rintro _ (e | f) rfl
    · exact ih _
    · exact ih _

private theorem pass_follows (engine : Engine) (now : Time.Instant) :
    Follows custody (fun y _ => y = .free) .free (pass engine now) := by
  have hdue : Follows custody (fun y _ => y = .free) .free (due now) := by
    refine (follows_ask (r := .repository .activeTriggers) rfl (by nofun)).bind ?_
    rintro _ (e | active) rfl
    · exact .done rfl
    · refine (follows_ask (r := .claimed) rfl (by nofun)).bind ?_
      rintro _ taken rfl
      exact .done rfl
  refine hdue.bind ?_
  rintro _ (e | found) rfl
  · exact .done rfl
  · refine (fireAll_follows engine now {} found).bind ?_
    rintro _ report rfl
    exact .done rfl

private theorem setStatus_follows (id : Id) (status : TriggerStatus) (text : String) :
    Follows custody (fun y _ => y = .free) .free (Service.setStatus id status text) := by
  refine (follows_ask (r := .repository (.setStatus id status)) rfl (by nofun)).bind ?_
  rintro _ (e | set) rfl
  · exact .done rfl
  · exact .done rfl

private theorem ofRunning_follows {α : Type} (engine : Engine) (p : Running α) (hx : x ≠ .ended) :
    Follows custody (fun y _ => y = x) x (Serving.ofRunning engine p) := by
  induction p with
  | done a => exact .done rfl
  | ask r next ih =>
    have hr : Follows custody (fun y _ => y = x) x (Serving.ofRunRequest engine r) := by
      cases r with
      | now => exact follows_ask (r := .now) rfl hx
      | dispatch calls => exact follows_ask (r := .dispatch engine calls) rfl hx
    refine hr.bind ?_
    rintro _ a rfl
    exact ih a

private theorem run_follows (engine : Engine) (r : TriggeredRun) :
    Follows custody (fun y _ => y = .ended) (.running r.triggerId) (r.process engine) := by
  refine (ofRunning_follows engine _ (by nofun)).bind ?_
  rintro _ (e | result) rfl
  · exact .ask rfl fun _ => .done rfl
  · refine (follows_ask (r := .repository (.saveRun result)) rfl (by nofun)).bind ?_
    rintro _ saved rfl
    exact .ask rfl fun _ => .done rfl

/-! ## Standings of activities -/

namespace Activity

/-- How an activity stands to triggers when it begins. -/
def standing : Activity → Standing
  | run _ r => .running r.triggerId
  | _ => .free

private theorem process_follows (engine : Engine) (t : Activity) :
    Follows custody (fun y _ => y.trigger? = none) t.standing (t.process engine) := by
  cases t with
  | fire id now =>
    refine (fire_follows engine id now).bind ?_
    rintro _ r rfl
    exact .done rfl
  | pass now =>
    refine (pass_follows engine now).bind ?_
    rintro _ r rfl
    exact .done rfl
  | pause id =>
    refine (setStatus_follows id _ _).bind ?_
    rintro _ r rfl
    exact .done rfl
  | resume id =>
    refine (setStatus_follows id _ _).bind ?_
    rintro _ r rfl
    exact .done rfl
  | run engine r =>
    refine (run_follows engine r).bind ?_
    rintro _ r rfl
    exact .done rfl

end Activity

namespace Ongoing

/-- How an activity stands to triggers after what it has asked. -/
def standing (p : Ongoing) : Standing := p.past.foldl Standing.after p.task.standing

/-- Whether a call has claimed the trigger and has neither given it back nor started its run. -/
def fires (id : Id) (p : Ongoing) : Bool := p.standing = .holding id

/-- Whether this is a run of the trigger that has not ended. -/
def runs (id : Id) (p : Ongoing) : Bool :=
  match p.task, p.rest with
  | .run _ r, .ask _ _ => r.triggerId = id
  | _, _ => false

/-- What is left of an activity follows the rule. -/
def Orderly (p : Ongoing) : Prop :=
  Follows custody (fun y _ => y.trigger? = none) p.standing p.rest

private theorem Orderly.allows {p : Ongoing} {r : ServiceRequest}
    {next : r.Answer → Serving Activity.Result} (h : p.Orderly) (hrest : p.rest = .ask r next) :
    p.standing.Allows r := by
  unfold Orderly at h
  rw [hrest] at h
  exact h.allows

/-- A call never stands to a trigger as a run does, and a run only as a run. -/
theorem standing_cases (p : Ongoing) :
    ((∀ e r, p.task ≠ .run e r) ∧ (p.standing = .free ∨ ∃ id, p.standing = .holding id)) ∨
      ∃ e r, p.task = .run e r ∧ (p.standing = .running r.triggerId ∨ p.standing = .ended) := by
  unfold standing
  cases htask : p.task with
  | run e r => exact .inr ⟨e, r, rfl, Standing.foldl_run (.inl rfl) p.past⟩
  | fire _ _ => exact .inl ⟨nofun, Standing.foldl_call (.inl rfl) p.past⟩
  | pass _ => exact .inl ⟨nofun, Standing.foldl_call (.inl rfl) p.past⟩
  | pause _ => exact .inl ⟨nofun, Standing.foldl_call (.inl rfl) p.past⟩
  | resume _ => exact .inl ⟨nofun, Standing.foldl_call (.inl rfl) p.past⟩

theorem Orderly.runs_iff {p : Ongoing} (h : p.Orderly) (id : Id) :
    p.runs id = true ↔ p.standing = .running id := by
  unfold Orderly at h
  rcases p.standing_cases with ⟨hcall, hx⟩ | ⟨e, r, hrun, hx⟩
  · have hruns : p.runs id = false := by
      unfold runs
      split
      · next hr _ => exact absurd hr (hcall _ _)
      · rfl
    rw [hruns]
    rcases hx with hx | ⟨id', hx⟩ <;> simp [hx]
  · unfold runs
    rw [hrun]
    rcases hx with hx | hx
    · rw [hx] at h ⊢
      generalize p.rest = rest at h
      cases h with
      | done hfinal => cases hfinal
      | ask _ _ => simp
    · rw [hx] at h ⊢
      generalize p.rest = rest at h
      cases h with
      | done _ => simp
      | ask hallowed _ => exact hallowed.elim

private theorem Orderly.count_trigger {p : Ongoing} (h : p.Orderly) (id : Id) :
    p.standing.trigger?.toList.count id =
      (if p.fires id then 1 else 0) + if p.runs id then 1 else 0 := by
  have hruns := h.runs_iff id
  unfold fires
  cases hx : p.standing with
  | free | ended => simp [hruns, hx, Standing.trigger?]
  | holding id' | running id' => simp [hruns, hx, Standing.trigger?, List.count_singleton]

end Ongoing

/-! ## The taken triggers -/

/-- The triggers that activities have in hand. -/
def inHand (ps : List Ongoing) : List Id := ps.filterMap fun p => p.standing.trigger?

private theorem inHand_append (ps qs : List Ongoing) : inHand (ps ++ qs) = inHand ps ++ inHand qs :=
  List.filterMap_append

private theorem inHand_cons (p : Ongoing) (ps : List Ongoing) :
    inHand (p :: ps) = (Ongoing.standing p).trigger?.toList ++ inHand ps := by
  unfold inHand
  rw [List.filterMap_cons]
  cases (Ongoing.standing p).trigger? <;> rfl

private theorem count_inHand {ps : List Ongoing} (h : ∀ p ∈ ps, Ongoing.Orderly p) (id : Id) :
    (inHand ps).count id = ps.countP (Ongoing.fires id) + ps.countP (Ongoing.runs id) := by
  induction ps with
  | nil => rfl
  | cons p ps ih =>
    have hp := (h p List.mem_cons_self).count_trigger id
    have hps := ih fun q hq => h q (List.mem_cons_of_mem p hq)
    rw [inHand_cons, List.count_append, hp, hps, List.countP_cons, List.countP_cons]
    omega

/-- The trigger that a request hands over to a run. -/
def handedOver : ServiceRequest → List Id
  | .launch _ r => [r.triggerId]
  | _ => []

private theorem inHand_newcomers {ρ : Type} (engine : Engine) (rep : Answering ρ)
    (r : ServiceRequest) : inHand ((activities engine rep).newcomers r) = handedOver r := by
  cases r <;> rfl

private theorem Shared.answers.taken_eq {ρ : Type} {rep : Answering ρ} {s s' : Shared ρ}
    {r : ServiceRequest} {a : r.Answer} (hr : isTransfer r = false) (h : s.answers rep r a s') :
    s'.taken = s.taken := by
  cases r <;> simp_all [Shared.answers, isTransfer]

private theorem handedOver_eq {r : ServiceRequest} (hr : isTransfer r = false) :
    handedOver r = [] := by
  cases r <;> simp_all [handedOver, isTransfer]

private theorem perm_taken {ρ : Type} {rep : Answering ρ} {s s' : Shared ρ} {r : ServiceRequest}
    {a : r.Answer} {others : List Id} (hallowed : x.Allows r) (ha : s.answers rep r a s')
    (hperm : (x.trigger?.toList ++ others).Perm s.taken) (hn : s.taken.Nodup) :
    ((x.after ⟨r, a⟩).trigger?.toList ++ handedOver r ++ others).Perm s'.taken ∧
      s'.taken.Nodup := by
  cases hr : isTransfer r with
  | false =>
    rw [x.after_eq hr, handedOver_eq hr, ha.taken_eq hr, List.append_nil]
    exact ⟨hperm, hn⟩
  | true =>
    cases r with
    | claim id =>
      obtain ⟨htaken, -⟩ := ha
      cases x with
      | free =>
        by_cases hid : id ∈ s.taken
        · rw [Claims.claim_of_mem hid] at htaken
          obtain ⟨rfl, hsame⟩ := Prod.mk.inj htaken
          rw [hsame]
          exact ⟨hperm, hn⟩
        · rw [Claims.claim_of_not_mem hid] at htaken
          obtain ⟨rfl, hadded⟩ := Prod.mk.inj htaken
          rw [hadded]
          exact ⟨hperm.cons id, List.nodup_cons.mpr ⟨hid, hn⟩⟩
      | holding _ | running _ | ended => exact hallowed.elim
    | release id =>
      obtain ⟨htaken, -⟩ := ha
      have hin : x.trigger? = some id ∧ (x.after ⟨.release id, a⟩).trigger? = none := by
        cases x with
        | holding _ | running _ =>
          cases hallowed
          exact ⟨rfl, rfl⟩
        | free | ended => exact hallowed.elim
      rw [hin.1] at hperm
      rw [hin.2, htaken]
      exact ⟨Claims.release_perm hperm hn, hn.filter _⟩
    | launch e run =>
      cases x with
      | holding id =>
        cases hallowed
        cases ha
        exact ⟨hperm, hn⟩
      | free | running _ | ended => exact hallowed.elim
    | _ => cases hr

section Reached

variable {ρ : Type} {rep : Answering ρ} {m : Shared ρ}
  {log : List (Interleaving.Event ServiceRequest ServiceRequest.Answer)}
  {s t : Interleaving.State Activity (Shared ρ) ServiceRequest ServiceRequest.Answer
    Activity.Result}

theorem orderly_of_reaches (h : (activities engine rep).Reaches m log s) :
    ∀ p ∈ s.parties, Ongoing.Orderly p :=
  fun p hp => (Activity.process_follows engine p.task).course (h.party_course p hp)

/-- What is taken is what activities have in hand. -/
theorem perm_of_reaches (hm : m.taken = []) (h : (activities engine rep).Reaches m log s) :
    (inHand s.parties).Perm s.shared.taken ∧ s.shared.taken.Nodup := by
  induction h with
  | stay =>
    rw [hm]
    exact ⟨.refl _, List.nodup_nil⟩
  | @move log log' s t hc hmove ih =>
    cases hmove with
    | @join ps shared task hcall =>
      have hfree : inHand [(activities engine rep).newcomer task] = [] := by
        cases task with
        | run e r => cases hcall
        | fire _ _ | pass _ | pause _ | resume _ => rfl
      rw [inHand_append, hfree, List.append_nil]
      exact ih
    | @answer ps shared shared' n task past r next a hp ha =>
      -- only the standing of the party that asks changes, and a run that it starts joins
      obtain ⟨hn, hget⟩ := List.getElem?_eq_some_iff.mp hp
      let old : Ongoing := ⟨task, past, .ask r next⟩
      let new : Ongoing := ⟨task, past ++ [⟨r, a⟩], next a⟩
      have hset : ∃ l₁ l₂, ps = l₁ ++ ps[n] :: l₂ ∧ l₁.length = n ∧
          ps.set n new = l₁ ++ new :: l₂ :=
        List.exists_of_set hn
      obtain ⟨l₁, l₂, hps, -, hset⟩ := hset
      rw [hget] at hps
      have hallowed : old.standing.Allows r :=
        (orderly_of_reaches hc old (List.mem_of_getElem? hp)).allows rfl
      have hnew : new.standing = old.standing.after ⟨r, a⟩ := by
        simp [Ongoing.standing, new, old]
      have hbefore : (old.standing.trigger?.toList ++ (inHand l₁ ++ inHand l₂)).Perm
          shared.taken := by
        refine List.Perm.trans ?_ ih.1
        rw [hps, inHand_append, inHand_cons]
        exact List.perm_append_comm_assoc _ _ _
      obtain ⟨hafter, hnodup⟩ := perm_taken hallowed ha hbefore ih.2
      refine ⟨List.Perm.trans ?_ hafter, hnodup⟩
      rw [hset, inHand_append, inHand_append, inHand_cons, inHand_newcomers, hnew,
        List.perm_iff_count]
      intro id
      simp only [List.count_append]
      omega

private theorem refused {n : Nat} {p : Ongoing} {e : Engine}
    {k : Except FiringError Firing → Serving Activity.Result}
    {x : Deed} (hp : s.parties[n]? = some p)
    (hrest : p.rest = (fire e id now >>= k)) (htaken : id ∈ s.shared.taken)
    (hmove : (activities engine rep).Move s [(n, x)] t) :
    t = ⟨s.parties.set n ⟨p.task, p.past ++ [x], k (.error (.stillRunning id))⟩, s.shared⟩ := by
  obtain ⟨q, next, hq, hask, ha, hparties, -⟩ := hmove.of_event
  cases hp.symm.trans hq
  obtain ⟨r, a⟩ := x
  cases hrest.symm.trans hask
  obtain ⟨hclaim, hrepository⟩ := ha
  rw [Claims.claim_of_mem htaken] at hclaim
  obtain ⟨rfl, hsame⟩ := Prod.mk.inj hclaim
  have hset := hparties.trans (List.append_nil _)
  obtain ⟨ps, taken, repository⟩ := t
  cases hsame
  cases hrepository
  cases hset
  rfl

private theorem claims {n : Nat} {p : Ongoing} {e : Engine}
    {k : Except FiringError Firing → Serving Activity.Result}
    {x : Deed} (horderly : p.Orderly)
    (hp : s.parties[n]? = some p) (hrest : p.rest = (fire e id now >>= k))
    (hfree : id ∉ s.shared.taken) (hmove : (activities engine rep).Move s [(n, x)] t) :
    id ∈ t.shared.taken ∧ ∃ q : Ongoing, t.parties[n]? = some q ∧ q.fires id = true := by
  have hallowed : p.standing.Allows (.claim id) := horderly.allows hrest
  obtain ⟨q, next, hq, hask, ha, -, hnew⟩ := hmove.of_event
  cases hp.symm.trans hq
  obtain ⟨r, a⟩ := x
  cases hrest.symm.trans hask
  obtain ⟨hclaim, -⟩ := ha
  rw [Claims.claim_of_not_mem hfree] at hclaim
  obtain ⟨rfl, htaken⟩ := Prod.mk.inj hclaim
  refine ⟨htaken ▸ List.mem_cons_self, _, hnew, ?_⟩
  have hfreed : p.standing = .free := by
    cases hx : p.standing with
    | free => rfl
    | holding _ | running _ | ended => exact (hx ▸ hallowed).elim
  unfold Ongoing.standing at hfreed
  simp [Ongoing.fires, Ongoing.standing, hfreed, Standing.after]

private theorem exists_claim {n : Nat} {p : Ongoing} {e : Engine}
    {k : Except FiringError Firing → Serving Activity.Result}
    (hp : s.parties[n]? = some p) (hrest : p.rest = (fire e id now >>= k)) :
    ∃ x t, (activities engine rep).Move s [(n, x)] t := by
  obtain ⟨task, past, rest⟩ := p
  cases hrest
  let claimed : Shared ρ := ⟨(Claims.claim s.shared.taken id).2, s.shared.repository⟩
  have ha : (activities engine rep).answers s.shared (.claim id)
      (Claims.claim s.shared.taken id).1 claimed := ⟨rfl, rfl⟩
  exact ⟨_, _, .answer hp ha⟩

theorem released {n : Nat} {p q : Ongoing} {x : Deed} (horderly : p.Orderly) (horderly' : q.Orderly)
    (hmove : (activities engine rep).Move s [(n, x)] t)
    (hp : s.parties[n]? = some p) (hq : t.parties[n]? = some q) (hruns : p.runs id = true)
    (hended : q.runs id = false) : id ∉ t.shared.taken := by
  obtain ⟨p', next, hp', hask, ha, -, hnew⟩ := hmove.of_event
  cases hp.symm.trans hp'
  cases hq.symm.trans hnew
  have hin : p.standing = .running id := (horderly.runs_iff id).mp hruns
  have hout : p.standing.after x = .ended := by
    have hnext : Ongoing.standing ⟨p.task, p.past ++ [x], next x.answer⟩ = p.standing.after x := by
      simp [Ongoing.standing]
    have hnot := (horderly'.runs_iff id).not.mp (Bool.eq_false_iff.mp hended)
    rw [hnext] at hnot
    exact (Standing.foldl_run (.inl hin) [x]).resolve_left hnot
  have hallowed := horderly.allows hask
  rw [hin] at hallowed hout
  obtain ⟨r, a⟩ := x
  cases r with
  | release id' =>
    cases hallowed
    rw [ha.1]
    exact Claims.not_mem_release
  | claim _ => exact hallowed.elim
  | launch _ _ => exact hallowed.elim
  | _ => cases hout

/-- At every point reached by calls, passes and runs side by side, a trigger is taken just when
either one call is firing it or one run of it goes on. A call that is about to fire it then is
refused and changes nothing, and otherwise takes it; and when a run of it ends it is free again. -/
theorem taken_once (engine : Engine) (rep : Answering ρ) {m : ρ}
    (h : (activities engine rep).Reaches ⟨[], m⟩ log s) (id : Id) :
    s.parties.countP (Ongoing.fires id) + s.parties.countP (Ongoing.runs id) =
        (if id ∈ s.shared.taken then 1 else 0) ∧
      (∀ n p e now k, s.parties[n]? = some p → p.rest = (fire e id now >>= k) →
        (∃ x t, (activities engine rep).Move s [(n, x)] t) ∧
        ∀ x t, (activities engine rep).Move s [(n, x)] t →
          (id ∈ s.shared.taken → t = ⟨s.parties.set n
            ⟨p.task, p.past ++ [x], k (.error (.stillRunning id))⟩, s.shared⟩) ∧
          (id ∉ s.shared.taken → id ∈ t.shared.taken ∧
            ∃ q, t.parties[n]? = some q ∧ Ongoing.fires id q = true)) ∧
      ∀ n p q x t, (activities engine rep).Move s [(n, x)] t → s.parties[n]? = some p →
        t.parties[n]? = some q → Ongoing.runs id p = true → Ongoing.runs id q = false →
          id ∉ t.shared.taken := by
  have horderly := orderly_of_reaches h
  refine ⟨?_, ?_, ?_⟩
  · obtain ⟨hperm, hnodup⟩ := perm_of_reaches rfl h
    rw [← count_inHand horderly id, hperm.count_eq]
    exact hnodup.count
  · intro n p e now k hp hrest
    refine ⟨exists_claim hp hrest, fun x t hmove => ⟨fun htaken => ?_, fun hfree => ?_⟩⟩
    · exact refused hp hrest htaken hmove
    · exact claims (horderly p (List.mem_of_getElem? hp)) hp hrest hfree hmove
  · intro n p q x t hmove hp hq hruns hended
    have horderly' := orderly_of_reaches (h.move hmove)
    exact released (horderly p (List.mem_of_getElem? hp)) (horderly' q (List.mem_of_getElem? hq))
      hmove hp hq hruns hended

/-- While a call fires a trigger it is taken, and a second call for it is refused. -/
theorem taken_once_second :
    ∃ log s, (activities ⟨.empty, {}⟩ Memory.answering).Reaches ⟨[], {}⟩ log s ∧
      s.parties.countP (Ongoing.fires .zero) + s.parties.countP (Ongoing.runs .zero) = 1 ∧
      (∃ x t, (activities ⟨.empty, {}⟩ Memory.answering).Move s [(1, x)] t) ∧
      ∀ x t, (activities ⟨.empty, {}⟩ Memory.answering).Move s [(1, x)] t →
        t.shared = s.shared := by
  have hcall : (activities ⟨.empty, {}⟩ Memory.answering).enters (.fire .zero ⟨0, 0⟩) := rfl
  have hfree : (activities ⟨.empty, {}⟩ Memory.answering).answers ⟨[], {}⟩ (.claim .zero) true
    ⟨[.zero], {}⟩ := ⟨rfl, rfl⟩
  have first : (activities ⟨.empty, {}⟩ Memory.answering).Reaches ⟨[], {}⟩ [] _ :=
    .move .stay (.join hcall)
  have claimed := first.move (.answer (n := 0) rfl hfree)
  have second := claimed.move (.join hcall)
  obtain ⟨hcount, hclaim, -⟩ := taken_once _ _ second .zero
  obtain ⟨hmoves, hrefused⟩ := hclaim 1 _ _ _ _ rfl rfl
  refine ⟨_, _, second, hcount, hmoves, fun x t hmove => ?_⟩
  rw [(hrefused x t hmove).1 (by decide)]

end Reached

end Automation.Trigger
