import Automation.Proofs.Process.Likeness
import Automation.Proofs.Service.Effects

/-!
# Replies without ids

How a message is handled depends on what the instance holds and on what is answered, but not on the
ids that are given on the way: with other ids the same is asked but for the ids, and the reply is
the same but for the ids.
-/

namespace Automation

open Process (Alike)

/-- The account of a run without the ids in it. -/
def RunResult.anonymous (r : RunResult) : RunResult :=
  { r with executionId := .zero, workflowId := .zero }

/-- A response without the ids in it. -/
def Response.anonymous (r : Response) : Response :=
  { r with
    workflowId := r.workflowId.map fun _ => .zero
    result := r.result.map RunResult.anonymous
    triggerId := r.triggerId.map fun _ => .zero }

namespace Service

/-- Requests of two messages that are alike but for ids and numbers of instances, with the answers
that are. The point says which workflows were stored last. -/
inductive Counterpart :
    Process.Likeness ServiceRequest ServiceRequest.Answer (Option (Id × Id)) where
  | now {x : Option (Id × Id)} : Counterpart x .now .now Eq x
  | freshId {x : Option (Id × Id)} : Counterpart x .freshId .freshId (fun _ _ => True) x
  | complete {x : Option (Id × Id)} (p : Model.Prompt) :
      Counterpart x (.complete p) (.complete p) Eq x
  | dispatch {x : Option (Id × Id)} (engine : Engine) (calls : List StepCall) :
      Counterpart x (.dispatch engine calls) (.dispatch engine calls) Eq x
  | saveWorkflow {x : Option (Id × Id)} (agentId : String) (w w' : Workflow) :
      Counterpart x (.repository (.saveWorkflow agentId w)) (.repository (.saveWorkflow agentId w'))
        (fun a a' => a = .ok () ∧ a' = .ok ()) (some (w.id, w'.id))
  | getWorkflow (id id' : Id) :
      Counterpart (some (id, id')) (.repository (.getWorkflow id)) (.repository (.getWorkflow id'))
        (fun a a' => (∃ w, a = .ok (some w)) ∧ ∃ w, a' = .ok (some w)) (some (id, id'))
  | saveRun {x : Option (Id × Id)} (r r' : RunResult) :
      Counterpart x (.repository (.saveRun r)) (.repository (.saveRun r')) (fun _ _ => True) x
  | createTrigger {x : Option (Id × Id)} (t t' : Trigger) :
      Counterpart x (.repository (.createTrigger t)) (.repository (.createTrigger t'))
        (fun a a' => a = .ok () ∧ a' = .ok ()) x
  | logTurn {x : Option (Id × Id)} (key : InstanceKey) (turn : Model.Message) :
      Counterpart x (.logTurn key turn) (.logTurn key turn) (fun _ _ => True) x
  | beginTurn {x : Option (Id × Id)} (key : InstanceKey) :
      Counterpart x (.beginTurn key) (.beginTurn key) (fun a a' => a'.map (·.2) = a.map (·.2)) x
  | keepTurn {x : Option (Id × Id)} (serial serial' : Nat) (c : Conversation) :
      Counterpart x (.keepTurn serial c) (.keepTurn serial' c) (fun _ _ => True) x
  | endTurn {x : Option (Id × Id)} (serial serial' : Nat) (c : Conversation) :
      Counterpart x (.endTurn serial c) (.endTurn serial' c) (fun _ _ => True) x

/-- The results are the same but for ids. -/
def SameReply (r r' : Response) : Prop := r'.anonymous = r.anonymous

theorem SameReply.eq {r r' : Response} (h : SameReply r r') : r'.anonymous = r.anonymous := h

/-- The replies are the same but for ids, and the conversations are the same. -/
def SameTurn (t t' : Turn) : Prop := SameReply t.1 t'.1 ∧ t'.2 = t.2

variable {x : Option (Id × Id)}

abbrev AlikeServing {α : Type} (post : α → α → Prop) (x : Option (Id × Id)) (p p' : Serving α) :
    Prop := Alike Counterpart (fun _ => post) x p p'

private theorem ofAsking_asks {α : Type} (p : Model.Asking α) :
    (Serving.ofAsking p).Asks fun r => ∃ prompt, r = .complete prompt := by
  induction p with
  | done a => exact .done a
  | ask prompt next ih => exact .ask ⟨prompt, rfl⟩ ih

private theorem ofAsking_alike {α : Type} (p : Model.Asking α) (x : Option (Id × Id)) :
    Alike Counterpart (fun y a a' => y = x ∧ a' = a) x (Serving.ofAsking p) (Serving.ofAsking p) :=
  .of_asks (ofAsking_asks p) fun r hr => by
    obtain ⟨prompt, rfl⟩ := hr
    exact .complete prompt

private theorem ofRunning_alike {α : Type} (engine : Engine) (p : Running α)
    (x : Option (Id × Id)) :
    Alike Counterpart (fun y a a' => y = x ∧ a' = a) x (Serving.ofRunning engine p)
      (Serving.ofRunning engine p) :=
  .of_asks (ofRunning_asks engine p) fun r hr => by
    rcases hr with rfl | ⟨calls, rfl⟩
    · exact .now
    · exact .dispatch engine calls

private theorem create_alike (id id' : Id) (now : Time.Instant) (agentId : String) (w w' : Id)
    (type : TriggerType) (config : Json.Value) :
    (∃ e, Trigger.create id now agentId w type config = .error e ∧
      Trigger.create id' now agentId w' type config = .error e) ∨
    ∃ t t', Trigger.create id now agentId w type config = .ok t ∧
      Trigger.create id' now agentId w' type config = .ok t' := by
  unfold Trigger.create
  dsimp only
  split
  · split
    · exact .inr ⟨_, _, rfl, rfl⟩
    · exact .inl ⟨_, rfl, rfl⟩
  · exact .inr ⟨_, _, rfl, rfl⟩

private theorem register_alike (agentId : String) (id id' : Id) (type : TriggerType)
    (config : Json.Value) :
    AlikeServing (fun a a' => (∃ e, a = .error e ∧ a' = .error e) ∨ ∃ t t', a = .ok t ∧ a' = .ok t')
      (some (id, id')) (Trigger.register agentId id type config)
      (Trigger.register agentId id' type config) := by
  refine .perform (.getWorkflow id id') ?_
  rintro _ _ ⟨⟨w, rfl⟩, w', rfl⟩
  refine .perform .freshId fun triggerId triggerId' _ => .perform .now ?_
  rintro now _ rfl
  rcases create_alike triggerId triggerId' now agentId id id' type config with
    ⟨e, he, he'⟩ | ⟨t, t', ht, ht'⟩
  · rw [he, he']
    exact .done (.inl ⟨_, rfl, rfl⟩)
  · rw [ht, ht']
    refine .perform (.createTrigger t t') ?_
    rintro _ _ ⟨rfl, rfl⟩
    exact .done (.inr ⟨t, t', rfl, rfl⟩)

private theorem schedule_alike (key : InstanceKey) (w w' : Workflow) (hname : w'.name = w.name)
    (config : Json.Value) :
    AlikeServing SameReply (some (w.id, w'.id)) (schedule key w config)
      (schedule key w' config) := by
  refine (register_alike key.agentId w.id w'.id .timeBased config).bind ?_
  rintro y _ _ (⟨e, rfl, rfl⟩ | ⟨t, t', rfl, rfl⟩)
  · exact .done rfl
  · refine .done ?_
    rw [hname]
    rfl

/-- A run does not look at the id of the workflow. -/
theorem loop_withId (w : Workflow) (id : Id) (concurrent : Bool) (now : Time.Instant)
    (remaining : List (Nat × Step)) (st : Run.State) :
    Run.loop { w with id } concurrent now remaining st =
      Run.loop w concurrent now remaining st := by
  have hready (remaining : List (Nat × Step)) (st : Run.State) :
      Run.ready { w with id } st remaining = Run.ready w st remaining := rfl
  induction remaining, st using Run.loop.induct w concurrent now with
  | case1 remaining st h =>
    rw [Run.loop, Run.loop, dif_pos ((hready _ _).trans h), dif_pos h]
  | case2 remaining st h batch ih =>
    rw [Run.loop, Run.loop, dif_neg (hready _ _ ▸ h), dif_neg h]
    exact congrArg (Process.ask _) (funext ih)

/-- The account of a run under other ids. -/
def renamed (id executionId : Id) (r : RunResult) : RunResult :=
  { r with executionId, workflowId := id }

private theorem execute_withId (e : Engine) {w : Workflow} (hw : w.validation.isValid = true)
    (id executionId executionId' : Id) :
    e.execute { w with id } executionId' =
      e.execute w executionId >>= fun a => .done (a.map (renamed id executionId')) := by
  have hvalid : w.ensureValid = .ok () := if_pos hw
  have hvalid' : Workflow.ensureValid { w with id } = .ok () := if_pos hw
  rw [Engine.execute, Engine.execute, hvalid, hvalid']
  simp only [Process.bind_assoc, loop_withId]
  rfl

private theorem ofRunning_bind_done {α β : Type} (engine : Engine) (p : Running α) (f : α → β) :
    Serving.ofRunning engine (p >>= fun a => .done (f a)) =
      Serving.ofRunning engine p >>= fun a => .done (f a) := by
  induction p with
  | done a => rfl
  | ask r next ih =>
    cases r with
    | now => exact congrArg (Process.ask _) (funext ih)
    | dispatch calls => exact congrArg (Process.ask _) (funext ih)

private theorem execute_alike (e : Engine) {w : Workflow} (hw : w.validation.isValid = true)
    (id executionId executionId' : Id) (x : Option (Id × Id)) :
    AlikeServing (fun a a' => a' = a.map (renamed id executionId')) x
      (Serving.ofRunning e (e.execute w executionId))
      (Serving.ofRunning e (e.execute { w with id } executionId')) := by
  rw [execute_withId e hw id executionId executionId', ofRunning_bind_done]
  exact (ofRunning_alike e _ x).map fun _ a _ h => by rw [h.2]

private theorem runNow_alike (s : Service) {w : Workflow} (hw : w.validation.isValid = true)
    (id : Id)
    (x : Option (Id × Id)) : AlikeServing SameReply x (s.runNow w) (s.runNow { w with id }) := by
  refine .perform .freshId fun executionId executionId' _ => ?_
  refine (execute_alike s.engine hw id executionId executionId' x).bind ?_
  rintro y (e | r) _ rfl
  · exact .done rfl
  · exact .perform (.saveRun r _) fun _ _ _ => .done rfl

private theorem saveAndRun_alike (s : Service) (key : InstanceKey) {w : Workflow}
    (hw : w.validation.isValid = true) (id : Id) (params : Entries String) (x : Option (Id × Id)) :
    AlikeServing SameReply x (s.saveAndRun key w params)
      (s.saveAndRun key { w with id } params) := by
  refine .perform (.saveWorkflow key.agentId w { w with id }) ?_
  rintro _ _ ⟨rfl, rfl⟩
  dsimp only
  cases Reply.scheduleConfig? params with
  | some config => exact schedule_alike key w { w with id } rfl config
  | none => exact s.runNow_alike hw id _

private theorem compile_withId (c : Compiler) (id id' : Id) (now : Time.Instant) (b : Blueprint)
    (params : Entries String) :
    c.compile id' now b params = { c.compile id now b params with id := id' } := rfl

private theorem hold_same (c : Conversation) (b : Blueprint) (params : Entries String)
    (w : Workflow) (id : Id) : SameTurn (hold c b params w) (hold c b params { w with id }) := by
  unfold hold
  dsimp only
  split <;> exact ⟨rfl, rfl⟩

private theorem compileAndRun_alike (s : Service) (key : InstanceKey) (c : Conversation)
    (b : Blueprint) (params : Entries String) (x : Option (Id × Id)) :
    AlikeServing SameTurn x (s.compileAndRun key c b params) (s.compileAndRun key c b params) := by
  refine .perform .freshId fun id id' _ => .perform .now ?_
  rintro now _ rfl
  dsimp only
  rw [compile_withId s.compiler id id' now b params]
  by_cases hvalid : (s.compiler.compile id now b params).validation.isValid = true
  · rw [if_pos hvalid, if_pos hvalid]
    exact (s.saveAndRun_alike key hvalid id' params x).bind fun y r r' h => .done ⟨h, rfl⟩
  · rw [if_neg hvalid, if_neg hvalid]
    exact .done (hold_same c b params _ id')

private theorem planAndRun_alike (s : Service) (key : InstanceKey) (c : Conversation)
    (text : String) (params : Entries String) (x : Option (Id × Id)) :
    AlikeServing SameTurn x (s.planAndRun key c text params) (s.planAndRun key c text params) := by
  refine (ofAsking_alike _ x).bind ?_
  rintro _ _ plan ⟨rfl, rfl⟩
  cases plan with
  | error e => exact .done ⟨rfl, rfl⟩
  | ok plan => exact s.compileAndRun_alike key c (.plan plan) params _

private theorem act_alike (s : Service) (key : InstanceKey) (c : Conversation) (text : String)
    (intent : Intent) (x : Option (Id × Id)) :
    AlikeServing SameTurn x (s.act key c text intent) (s.act key c text intent) := by
  unfold act
  split
  · exact .done ⟨rfl, rfl⟩
  · dsimp only
    split
    · exact s.compileAndRun_alike key c _ _ x
    · split
      · exact .done ⟨rfl, rfl⟩
      · split
        · exact s.planAndRun_alike key c text _ x
        · exact .done ⟨rfl, rfl⟩

private theorem respond_alike (s : Service) (key : InstanceKey) (c : Conversation) (text : String)
    (recent : List Model.Message) (x : Option (Id × Id)) :
    AlikeServing SameTurn x (s.respond key c text recent) (s.respond key c text recent) := by
  unfold respond
  split
  · exact .done ⟨rfl, rfl⟩
  · dsimp only
    split
    · exact s.compileAndRun_alike key { c with selection := none } _ _ x
    · split
      · refine (ofAsking_alike _ x).bind ?_
        rintro _ _ intent ⟨rfl, rfl⟩
        exact s.act_alike key { c with selection := none } text intent _
      · split
        · exact s.compileAndRun_alike key { c with selection := none, pending := none } _ _ x
        · refine (ofAsking_alike _ x).bind ?_
          rintro _ _ intent ⟨rfl, rfl⟩
          split
          · exact s.act_alike key { c with selection := none, pending := none } text intent _
          · exact .done ⟨rfl, rfl⟩

private theorem handle_alike (s : Service) (key : InstanceKey) (serial serial' : Nat)
    (c : Conversation) (text : String) (x : Option (Id × Id)) :
    AlikeServing SameReply x (s.handle key serial c text) (s.handle key serial' c text) := by
  refine .perform (.keepTurn serial serial' _) fun _ _ _ => ?_
  refine (s.respond_alike key _ _ _ x).bind ?_
  rintro y ⟨response, answered⟩ ⟨response', _⟩ ⟨hsame, rfl⟩
  have hmessage : response'.message = response.message := congrArg (·.message) hsame.eq
  dsimp only
  rw [hmessage]
  refine .perform (.endTurn serial serial' _) fun _ _ _ => ?_
  refine .perform (.logTurn key _) fun _ _ _ => .perform (.logTurn key _) fun _ _ _ => ?_
  exact .done hsame

/-- A message is answered alike but for ids, if the conversation that it finds is the same. -/
theorem send_alike (s : Service) (key : InstanceKey) (text : String) :
    AlikeServing SameReply none (s.send key text) (s.send key text) := by
  unfold send
  split
  · exact .done rfl
  · split
    · exact .done rfl
    · -- the instances may have different numbers, but the conversation is the same
      refine .perform (.beginTurn key) ?_
      rintro (_ | ⟨serial, c⟩) (_ | ⟨serial', c'⟩) h
      · exact .done rfl
      · cases h
      · cases h
      · cases h
        exact s.handle_alike key serial serial' c text none

end Service

end Automation
