import Automation.Proofs.Conversation.Copies
import Automation.Proofs.Run.Batch
import Automation.Proofs.Service.Likeness
import Automation.Proofs.Session.Exclusion

/-!
# Steady surroundings

The model answers by what it is asked and drivers by operation and parameters, and repositories do
not fail. Then two messages that ask alike and find the same are answered alike, whatever messages
to other keys have asked before; those take at most an instance away that has been idle for too
long.
-/

namespace Automation.Session

open Service (Counterpart)
open Instances (Seen)

variable {ρ : Type} {s : Service} {others : Surroundings ρ}

/-- What drivers answer, by the operation and the parameters alone. -/
abbrev Drive := (driver operation : String) → Json.Members → Option Outcome

/-- The verdict on a call if the driver answers each attempt so. -/
def verdict (drive : Drive) (e : Engine) (c : StepCall) : Verdict :=
  Run.verdictOf e c fun _ => drive c.driver c.operation c.parameters

/-- Surroundings on which one may rely: the model answers by what it is asked, drivers by operation
and parameters, and repositories do not fail and find the workflows that were stored. -/
structure Steady (others : Surroundings ρ) (model : Model.Prompt → Model.Answer) (drive : Drive)
    (stored : ρ → Id → Prop) : Prop where
  answers : ∀ w now (r : ServiceRequest), ∃ a w', others w now r a w'
  complete : ∀ {w now p a w'}, others w now (.complete p) a w' → a = model p
  dispatch : ∀ {w now e calls a w'}, others w now (.dispatch e calls) a w' →
    a = calls.map (verdict drive e)
  saves : ∀ {w now agentId workflow a w'},
    others w now (.repository (.saveWorkflow agentId workflow)) a w' →
      a = .ok () ∧ stored w' workflow.id
  finds : ∀ {w now id a w'}, stored w id → others w now (.repository (.getWorkflow id)) a w' →
    ∃ workflow, a = .ok (some workflow)
  registers : ∀ {w now t a w'}, others w now (.repository (.createTrigger t)) a w' → a = .ok ()
  keeps : ∀ {w now} {r : ServiceRequest} {a w' id}, others w now r a w' → stored w id → stored w' id

/-- The table that a request about an instance means: the request is about the one of the key. -/
def Concerns (key : InstanceKey) (t : Instances) : ServiceRequest → Prop
  | .beginTurn k => k = key
  | .keepTurn serial _ | .endTurn serial _ => ∃ i, t.get? key = some i ∧ i.serial = serial
  | r => r.isOfTable = false

section Answers

variable {model : Model.Prompt → Model.Answer} {drive : Drive} {stored : ρ → Id → Prop}
  {key key' : InstanceKey} {sh sh' u u' : Shared ρ} {clock now : Time.Instant}

theorem stored_of_serves (hsteady : Steady others model drive stored) {r : ServiceRequest}
    {a : r.Answer} {id : Id} (h : sh.serves others now r a u) (hstored : stored sh.around id) :
    stored u.around id := by
  unfold Shared.serves at h
  split at h
  · rw [h.2.2]
    exact hstored
  · exact hsteady.keeps h.2 hstored

private theorem get?_of_beginTurn (hsound : sh.table.Sound) (hne : key ≠ key')
    {a : Option (Nat × Conversation)} (ha : sh.serves others now (.beginTurn key') a u) :
    sh.table.SameSettings u.table ∧ u.table.get? key = (sh.table.maybeSweep now).get? key := by
  have hs := sh.table.sameSettings_getOrCreate key' .null now
  have hget := hsound.get?_getOrCreate key' .null now
  have hother := hget key
  rw [if_neg hne] at hother
  obtain ⟨-, hbegin⟩ := beginTurn_of_serves ha
  split at hbegin
  · rw [hbegin.2]
    exact ⟨hs, hother⟩
  · rw [hbegin.2]
    have hown := hget key'
    rw [if_pos rfl] at hown
    have hsound' := hsound.getOrCreate key' .null now
    exact ⟨hs, (hsound'.get?_update_of_ne (by exact fun _ => rfl) hown hne).trans hother⟩

theorem exists_serves (hsteady : Steady others model drive stored) (sh : Shared ρ)
    (now : Time.Instant) (r : ServiceRequest) :
    ∃ a u, sh.serves others now r a u ∧ u.clock = now := by
  cases h : sh.table.answer? now r with
  | some x =>
    refine ⟨x.1, ⟨now, x.2, sh.around⟩, ?_, rfl⟩
    rw [Shared.serves, h]
    exact ⟨rfl, rfl, rfl⟩
  | none =>
    obtain ⟨a, w', hw⟩ := hsteady.answers sh.around now r
    refine ⟨a, ⟨now, sh.table, w'⟩, ?_, rfl⟩
    rw [Shared.serves, h]
    exact ⟨rfl, hw⟩

theorem seen_of_other {t' : Instances} {r : ServiceRequest} {a : r.Answer}
    (hseen : Seen key clock sh.table t') (hsound : sh.table.Sound) (hne : key ≠ key')
    (hr : Concerns key' sh.table r) (hclock : clock.toMillis ≤ now.toMillis)
    (ha : sh.serves others now r a u) : Seen key now u.table t' := by
  cases r with
  | beginTurn k =>
    obtain rfl : k = key' := hr
    obtain ⟨hs, hget⟩ := get?_of_beginTurn hsound hne ha
    refine hseen.filtered hs hclock ?_
    rw [hget]
    exact hsound.get?_maybeSweep now key
  | keepTurn serial c =>
    obtain ⟨i, hi, rfl⟩ := hr
    have htable : u.table = sh.table.store i.serial c := ha.2.1
    rw [htable]
    exact hseen.filtered (.refl _) hclock (.inl (hsound.get?_update_of_ne (fun _ => rfl) hi hne))
  | endTurn serial c =>
    obtain ⟨i, hi, rfl⟩ := hr
    have htable : u.table = sh.table.finish i.serial c now := ha.2.1
    rw [htable]
    exact hseen.filtered (.refl _) hclock (.inl (hsound.get?_update_of_ne (fun _ => rfl) hi hne))
  | _ =>
    rw [table_of_serves hr ha]
    exact hseen.filtered (.refl _) hclock (.inl rfl)

private theorem beginTurn_same (hseen : Seen key clock sh.table sh'.table) (hsound : sh.table.Sound)
    (hsound' : sh'.table.Sound) (hclock : clock.toMillis ≤ now.toMillis)
    {a a' : Option (Nat × Conversation)} (ha : sh.serves others now (.beginTurn key) a u)
    (ha' : sh'.serves others now (.beginTurn key) a' u') :
    a'.map (·.2) = a.map (·.2) ∧ Seen key now u.table u'.table := by
  have hcopy := hseen.getOrCreate hsound hsound' hclock .null
  have haccessed := hseen.accessed hsound hsound' hclock .null
  have hget := hsound.get?_getOrCreate key .null now key
  have hget' := hsound'.get?_getOrCreate key .null now key
  rw [if_pos rfl] at hget hget'
  have hbusy := congrArg (·.busy) hcopy.eq
  have hconversation := congrArg (·.conversation) hcopy.eq
  obtain ⟨-, hbegin⟩ := beginTurn_of_serves ha
  obtain ⟨-, hbegin'⟩ := beginTurn_of_serves ha'
  split at hbegin
  · next hb =>
    rw [if_pos (hbusy.trans hb)] at hbegin'
    rw [hbegin.1, hbegin'.1, hbegin.2, hbegin'.2]
    exact ⟨rfl, haccessed⟩
  · next hb =>
    rw [if_neg (fun h => hb (hbusy.symm.trans h))] at hbegin'
    rw [hbegin.1, hbegin'.1, hbegin.2, hbegin'.2]
    have hlock (i j : Instance) (h : i.Copy j) :
        ({ i with busy := true } : Instance).Copy { j with busy := true } :=
      show ({ j with busy := true } : Instance) = _ from
        congrArg (fun k : Instance => { k with busy := true }) h.eq
    exact ⟨congrArg some hconversation, haccessed.updated (fun _ => rfl) hlock hget hget'⟩

private theorem keepTurn_same (hseen : Seen key clock sh.table sh'.table) {serial serial' : Nat}
    {c : Conversation}
    {a : (ServiceRequest.keepTurn serial c).Answer}
    {a' : (ServiceRequest.keepTurn serial' c).Answer}
    (hr : Concerns key sh.table (.keepTurn serial c))
    (hr' : Concerns key sh'.table (.keepTurn serial' c))
    (ha : sh.serves others now (.keepTurn serial c) a u)
    (ha' : sh'.serves others now (.keepTurn serial' c) a' u') : Seen key now u.table u'.table := by
  obtain ⟨i, hi, rfl⟩ := hr
  obtain ⟨j, hj, rfl⟩ := hr'
  have htable : u.table = sh.table.store i.serial c := ha.2.1
  have htable' : u'.table = sh'.table.store j.serial c := ha'.2.1
  rw [htable, htable']
  refine hseen.updated (fun _ => rfl) (fun i j h => ?_) hi hj
  exact congrArg (fun j => { j with conversation := c }) h

private theorem endTurn_same (hseen : Seen key clock sh.table sh'.table) {serial serial' : Nat}
    {c : Conversation}
    {a : (ServiceRequest.endTurn serial c).Answer} {a' : (ServiceRequest.endTurn serial' c).Answer}
    (hr : Concerns key sh.table (.endTurn serial c))
    (hr' : Concerns key sh'.table (.endTurn serial' c))
    (ha : sh.serves others now (.endTurn serial c) a u)
    (ha' : sh'.serves others now (.endTurn serial' c) a' u') : Seen key now u.table u'.table := by
  obtain ⟨i, hi, rfl⟩ := hr
  obtain ⟨j, hj, rfl⟩ := hr'
  have htable : u.table = sh.table.finish i.serial c now := ha.2.1
  have htable' : u'.table = sh'.table.finish j.serial c now := ha'.2.1
  rw [htable, htable']
  refine hseen.updated (fun _ => rfl) (fun i j h => ?_) hi hj
  exact congrArg (fun j => { j with conversation := c, busy := false }.touch now) h

/-- Requests that are alike are answered alike, and leave alike what they meet. -/
theorem same_of_counterpart (hsteady : Steady others model drive stored)
    {x y : Option (Id × Id)} {r r' : ServiceRequest} {same : r.Answer → r'.Answer → Prop}
    {a : r.Answer} {a' : r'.Answer} (hc : Counterpart x r r' same y)
    (hseen : Seen key clock sh.table sh'.table) (hsound : sh.table.Sound)
    (hsound' : sh'.table.Sound) (hr : Concerns key sh.table r) (hr' : Concerns key sh'.table r')
    (hclock : clock.toMillis ≤ now.toMillis)
    (hx : ∀ z ∈ x, stored sh.around z.1 ∧ stored sh'.around z.2)
    (ha : sh.serves others now r a u) (ha' : sh'.serves others now r' a' u') :
    same a a' ∧ Seen key now u.table u'.table ∧
      ∀ z ∈ y, stored u.around z.1 ∧ stored u'.around z.2 := by
  have hkept : ∀ z ∈ x, stored u.around z.1 ∧ stored u'.around z.2 := fun z hz =>
    ⟨stored_of_serves hsteady ha (hx z hz).1, stored_of_serves hsteady ha' (hx z hz).2⟩
  -- only the three requests about an instance change the table
  have hleft (h : r.isOfTable = false) (h' : r'.isOfTable = false) :
      Seen key now u.table u'.table := by
    rw [table_of_serves h ha, table_of_serves h' ha']
    exact hseen.filtered (.refl _) hclock (.inl rfl)
  cases hc with
  | now => exact ⟨ha.1.trans ha'.1.symm, hleft rfl rfl, hkept⟩
  | freshId => exact ⟨trivial, hleft rfl rfl, hkept⟩
  | complete p =>
    exact ⟨(hsteady.complete ha.2).trans (hsteady.complete ha'.2).symm, hleft rfl rfl, hkept⟩
  | dispatch e calls =>
    exact ⟨(hsteady.dispatch ha.2).trans (hsteady.dispatch ha'.2).symm, hleft rfl rfl, hkept⟩
  | saveWorkflow agentId w w' =>
    obtain ⟨hok, hstored⟩ := hsteady.saves ha.2
    obtain ⟨hok', hstored'⟩ := hsteady.saves ha'.2
    refine ⟨⟨hok, hok'⟩, hleft rfl rfl, ?_⟩
    rintro z ⟨⟩
    exact ⟨hstored, hstored'⟩
  | getWorkflow id id' =>
    obtain ⟨hid, hid'⟩ := hx (id, id') rfl
    exact ⟨⟨hsteady.finds hid ha.2, hsteady.finds hid' ha'.2⟩, hleft rfl rfl, hkept⟩
  | saveRun | logTurn => exact ⟨trivial, hleft rfl rfl, hkept⟩
  | createTrigger t t' =>
    exact ⟨⟨hsteady.registers ha.2, hsteady.registers ha'.2⟩, hleft rfl rfl, hkept⟩
  | beginTurn k =>
    obtain rfl : k = key := hr
    obtain ⟨hsame, hseen⟩ := beginTurn_same hseen hsound hsound' hclock ha ha'
    exact ⟨hsame, hseen, hkept⟩
  | keepTurn => exact ⟨trivial, keepTurn_same hseen hr hr' ha ha', hkept⟩
  | endTurn => exact ⟨trivial, endTurn_same hseen hr hr' ha ha', hkept⟩

end Answers

end Automation.Session
