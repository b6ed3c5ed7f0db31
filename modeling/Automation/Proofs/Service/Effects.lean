import Automation.Proofs.Service.Conversation

/-!
# What a message does

Besides talking, a message may use the repository and the drivers. What it does with them follows
from the status of the reply: a workflow is stored and run, or stored and scheduled, or something
went wrong on the way and neither a driver was called nor a trigger stored, or nothing is done.
-/

namespace Automation

/-- Whether drivers are called for the request, now or in the background. -/
def ServiceRequest.drives : ServiceRequest → Bool
  | dispatch _ _ | launch _ _ => true
  | _ => false

/-- Whether the request reaches beyond the conversation it is made for, its record and the model. -/
def ServiceRequest.isOutward : ServiceRequest → Bool
  | now | freshId | complete _ | logTurn _ _ | beginTurn _ | keepTurn _ _ | endTurn _ _ => false
  | _ => true

/-- Whether the request is about the table of instances. -/
def ServiceRequest.isOfTable : ServiceRequest → Bool
  | openInstance _ _ | beginTurn _ | keepTurn _ _ | endTurn _ _ | removeInstance _ | listInstances
  | clearInstances => true
  | _ => false

/-- Whether the request is about the table of instances or records a turn. -/
def ServiceRequest.isOfConversation : ServiceRequest → Bool
  | logTurn _ _ => true
  | r => r.isOfTable

theorem ServiceRequest.not_table_of_not_conversation {r : ServiceRequest}
    (h : r.isOfConversation = false) : r.isOfTable = false := by
  cases r <;> first | exact h | rfl

theorem ServiceRequest.isOutward_of_drives {r : ServiceRequest} (h : r.drives = true) :
    r.isOutward = true := by
  cases r <;> first | rfl | cases h

namespace Service

/-- An exchange of the service with its surroundings. -/
abbrev Deed := Exchange ServiceRequest ServiceRequest.Answer

/-- The exchanges that reach beyond the conversation, in their order. -/
def deeds (log : List Deed) : List Deed := log.filter (·.request.isOutward)

/-- The answer to the storing of a workflow for an agent. -/
def saving (agentId : String) (w : Workflow) (answer : Except RepositoryError Unit) : Deed :=
  ⟨.repository (.saveWorkflow agentId w), answer⟩

/-- The answer to the recording of a run. -/
def recording (result : RunResult) (answer : Except RepositoryError Unit) : Deed :=
  ⟨.repository (.saveRun result), answer⟩

/-- The answer to the reading of a workflow. -/
def reading (id : Id) (answer : Except RepositoryError (Option Workflow)) : Deed :=
  ⟨.repository (.getWorkflow id), answer⟩

/-- The answer to the storing of a trigger. -/
def registering (t : Trigger) (answer : Except RepositoryError Unit) : Deed :=
  ⟨.repository (.createTrigger t), answer⟩

/-- The report of the workflow is that of the registry, and it is valid. -/
def Vouches (s : Service) (w : Workflow) : Prop :=
  w.validation.isValid = true ∧ w.validation = Compiler.validate s.registry w

/-- A workflow was stored for the agent and run, and the run was recorded once. The calls between
are those of the run, and the reply has its result. -/
def Ran (s : Service) (agentId : String) (done : List Deed) (r : Response) : Prop :=
  ∃ w executionId course result answer,
    s.Vouches w ∧
    (Serving.ofRunning s.engine (s.engine.execute w executionId)).Ends course (.ok result) ∧
    (∀ x ∈ deeds course, x.request.drives = true) ∧
    done = saving agentId w (.ok ()) :: (deeds course ++ [recording result answer]) ∧
    result.workflowId = w.id ∧ r.workflowId = some w.id ∧ r.result = some result

/-- A workflow was stored for the agent and found again, and an active trigger that fires it by time
was stored. -/
def Scheduled (s : Service) (agentId : String) (done : List Deed) (r : Response) : Prop :=
  ∃ w found t,
    s.Vouches w ∧
    done = [saving agentId w (.ok ()), reading w.id (.ok (some found)), registering t (.ok ())] ∧
    t.agentId = agentId ∧ t.workflowId = w.id ∧ t.type = .timeBased ∧ t.status = .active ∧
    r.workflowId = some w.id ∧ r.triggerId = some t.id

/-- No driver was called and no trigger stored: at most a workflow was stored or read, or a trigger
refused. -/
def Failed (done : List Deed) : Prop :=
  ∀ x ∈ done, (∃ agentId w answer, x = saving agentId w answer) ∨
    (∃ id answer, x = reading id answer) ∨ ∃ t e, x = registering t (.error e)

/-- What was done, by the status of a reply other than that the instance is busy. -/
def Accounts (s : Service) (agentId : String) (done : List Deed) (r : Response) : Prop :=
  match r.status with
  | .executed => s.Ran agentId done r
  | .scheduled => s.Scheduled agentId done r
  | .error => Failed done
  | .busy => False
  | _ => done = []

/-- Collects the exchanges that reach beyond the conversation, and allows these requests. -/
def collecting (allowed : ServiceRequest → Prop) :
    Process.Rule ServiceRequest ServiceRequest.Answer (List Deed) where
  after done x := if x.request.isOutward then done ++ [x] else done
  allows _ := allowed

theorem foldl_collecting (allowed : ServiceRequest → Prop) (log done : List Deed) :
    log.foldl (collecting allowed).after done = done ++ deeds log := by
  induction log generalizing done with
  | nil => simp [deeds]
  | cons x log ih =>
    rw [List.foldl_cons, ih]
    by_cases hx : x.request.isOutward = true <;> simp [collecting, deeds, hx]

/-- With what was done before, the process does such things and has such a result, and it leaves the
table of instances and the record of turns alone. -/
abbrev Does {α : Type} (post : List Deed → α → Prop) (before : List Deed) (p : Serving α) : Prop :=
  p.Follows (collecting (·.isOfConversation = false)) post before

private theorem follows_inward {α : Type} {allowed : ServiceRequest → Prop}
    {post : List Deed → α → Prop}
    {before : List Deed} {r : ServiceRequest} {f : r.Answer → Serving α} (hr : allowed r)
    (hin : r.isOutward = false) (h : ∀ a, (f a).Follows (collecting allowed) post before) :
    (Process.ask r .done >>= f).Follows (collecting allowed) post before := by
  refine .ask hr fun a => ?_
  have hafter : (collecting allowed).after before ⟨r, a⟩ = before := by simp [collecting, hin]
  rw [hafter]
  exact h a

private theorem follows_outward {α : Type} {allowed : ServiceRequest → Prop}
    {post : List Deed → α → Prop}
    {before : List Deed} {r : ServiceRequest} {f : r.Answer → Serving α} (hr : allowed r)
    (hout : r.isOutward = true)
    (h : ∀ a, (f a).Follows (collecting allowed) post (before ++ [⟨r, a⟩])) :
    (Process.ask r .done >>= f).Follows (collecting allowed) post before := by
  refine .ask hr fun a => ?_
  have hafter : (collecting allowed).after before ⟨r, a⟩ = before ++ [⟨r, a⟩] := by
    simp [collecting, hout]
  rw [hafter]
  exact h a

private theorem accounts_of_error {s : Service} {agentId : String} {done : List Deed} {r : Response}
    (hr : r.status = .error) (h : Failed done) : s.Accounts agentId done r := by
  rw [Accounts, hr]
  exact h

private theorem create_ok {id : Id} {now : Time.Instant} {agentId : String} {workflowId : Id}
    {type : TriggerType} {config : Json.Value} {t : Trigger}
    (h : Trigger.create id now agentId workflowId type config = .ok t) :
    t.agentId = agentId ∧ t.workflowId = workflowId ∧ t.type = type ∧ t.status = .active := by
  unfold Trigger.create at h
  dsimp only at h
  split at h
  · split at h
    · cases h
      exact ⟨rfl, rfl, rfl, rfl⟩
    · cases h
  · cases h
    exact ⟨rfl, rfl, rfl, rfl⟩

/-- What creating a trigger for a workflow has done. -/
def Registered (agentId : String) (workflowId : Id) (type : TriggerType) (before done : List Deed) :
    Except FiringError Trigger → Prop
  | .ok t => (∃ found, done =
      before ++ [reading workflowId (.ok (some found)), registering t (.ok ())]) ∧
      t.agentId = agentId ∧ t.workflowId = workflowId ∧ t.type = type ∧ t.status = .active
  | .error _ => ∃ more, done = before ++ more ∧ Failed more

private theorem register_does (agentId : String) (workflowId : Id) (type : TriggerType)
    (config : Json.Value) (before : List Deed) :
    Does (Registered agentId workflowId type before) before
      (Trigger.register agentId workflowId type config) := by
  refine follows_outward rfl rfl fun found => ?_
  have hread : Failed [reading workflowId found] := by
    intro x hx
    rw [List.mem_singleton.mp hx]
    exact .inr (.inl ⟨workflowId, found, rfl⟩)
  rcases found with e | _ | found
  · exact .done ⟨_, rfl, hread⟩
  · exact .done ⟨_, rfl, hread⟩
  · refine follows_inward rfl rfl fun id => follows_inward rfl rfl fun now => ?_
    cases hcreate : Trigger.create id now agentId workflowId type config with
    | error e => exact .done ⟨_, rfl, hread⟩
    | ok t =>
      refine follows_outward rfl rfl ?_
      rintro (e | stored)
      · refine .done ⟨[_, registering t (.error e)], List.append_assoc _ _ _, ?_⟩
        intro x hx
        rcases List.mem_cons.mp hx with rfl | hx
        · exact hread _ (List.mem_singleton.mpr rfl)
        · rw [List.mem_singleton.mp hx]
          exact .inr (.inr ⟨t, e, rfl⟩)
      · exact .done ⟨⟨found, List.append_assoc _ _ _⟩, create_ok hcreate⟩

private theorem schedule_does (s : Service) (key : InstanceKey) {w : Workflow} (hw : s.Vouches w)
    (config : Json.Value) :
    Does (s.Accounts key.agentId) [saving key.agentId w (.ok ())] (schedule key w config) := by
  refine (register_does key.agentId w.id .timeBased config _).bind ?_
  rintro done (e | t) h
  · obtain ⟨more, rfl, hmore⟩ := h
    refine .done (accounts_of_error rfl ?_)
    intro x hx
    rcases List.mem_cons.mp hx with rfl | hx
    · exact .inl ⟨_, _, _, rfl⟩
    · exact hmore x hx
  · obtain ⟨⟨found, rfl⟩, hagent, hworkflow, htype, hstatus⟩ := h
    exact .done ⟨w, found, t, hw, rfl, hagent, hworkflow, htype, hstatus, rfl, rfl⟩

theorem ofRunning_asks {α : Type} (engine : Engine) (p : Running α) :
    (Serving.ofRunning engine p).Asks fun r => r = .now ∨ ∃ calls, r = .dispatch engine calls := by
  induction p with
  | done a => exact .done a
  | ask r next ih =>
    cases r with
    | now => exact .ask (.inl rfl) fun a => ih a
    | dispatch calls => exact .ask (.inr ⟨calls, rfl⟩) fun a => ih a

private theorem drives_of_ofRunning {α : Type} (engine : Engine) (p : Running α) {log : List Deed}
    {a : α}
    (h : (Serving.ofRunning engine p).Ends log a) : ∀ x ∈ deeds log, x.request.drives = true := by
  intro x hx
  obtain ⟨hmem, hout⟩ := List.mem_filter.mp hx
  rcases (ofRunning_asks engine p).course h x hmem with hnow | ⟨calls, hcalls⟩
  · rw [hnow] at hout
    cases hout
  · rw [hcalls]
    rfl

theorem ensures_ofRunning {α : Type} {post : α → Prop} (engine : Engine) {p : Running α}
    (h : p.Ensures post) : (Serving.ofRunning engine p).Ensures post := by
  induction p with
  | done a =>
    cases h with
    | done hpost => exact .done hpost
  | ask r next ih =>
    cases h with
    | ask _ hnext =>
      cases r with
      | now => exact .ask trivial fun a => ih a (hnext a)
      | dispatch calls => exact .ask trivial fun a => ih a (hnext a)

theorem execute_ensures (e : Engine) {w : Workflow} (hw : w.validation.isValid = true) (id : Id) :
    (e.execute w id).Ensures fun x => ∃ result, x = .ok result ∧ result.workflowId = w.id := by
  rw [Engine.execute, Workflow.ensureValid, if_pos hw]
  refine .bind_of_forall fun started => .bind_of_forall fun state => ?_
  exact .bind_of_forall fun finished => .done ⟨_, rfl, rfl⟩

private theorem runNow_does (s : Service) (agentId : String) {w : Workflow} (hw : s.Vouches w) :
    Does (s.Accounts agentId) [saving agentId w (.ok ())] (s.runNow w) := by
  refine follows_inward rfl rfl fun executionId => ?_
  have hquiet : ∀ r : ServiceRequest, (r = .now ∨ ∃ calls, r = .dispatch s.engine calls) →
      r.isOfConversation = false := by
    rintro r (rfl | ⟨calls, rfl⟩) <;> rfl
  refine (((ofRunning_asks s.engine (s.engine.execute w executionId)).follows fun _ => hquiet)
    [saving agentId w (.ok ())]).bind ?_
  rintro done x ⟨course, hends, rfl⟩
  obtain ⟨result, rfl, hid⟩ :=
    (ensures_ofRunning s.engine (execute_ensures s.engine hw.1 executionId)).result hends
  refine follows_outward rfl rfl fun answer => .done ?_
  refine ⟨w, executionId, course, result, answer, hw, hends, drives_of_ofRunning _ _ hends, ?_, hid,
    congrArg some hid, rfl⟩
  rw [foldl_collecting]
  rfl

theorem saveAndRun_does (s : Service) (key : InstanceKey) {w : Workflow} (hw : s.Vouches w)
    (params : Entries String) : Does (s.Accounts key.agentId) [] (s.saveAndRun key w params) := by
  refine follows_outward rfl rfl ?_
  rintro (e | saved)
  · refine .done (accounts_of_error rfl ?_)
    intro x hx
    rw [List.mem_singleton.mp hx]
    exact .inl ⟨_, _, _, rfl⟩
  · -- the workflow is stored, and what comes next is owed to that
    dsimp only
    cases Reply.scheduleConfig? params with
    | some config => exact s.schedule_does key hw config
    | none => exact s.runNow_does key.agentId hw

theorem accounts_nil {s : Service} {agentId : String} {r : Response} (hrun : r.status ≠ .executed)
    (hschedule : r.status ≠ .scheduled) (hbusy : r.status ≠ .busy) : s.Accounts agentId [] r := by
  unfold Accounts
  split
  · contradiction
  · contradiction
  · exact fun x hx => absurd hx List.not_mem_nil
  · contradiction
  · rfl

theorem Accounts.not_busy {s : Service} {agentId : String} {done : List Deed} {r : Response}
    (h : s.Accounts agentId done r) : r.status ≠ .busy := by
  intro hbusy
  rwa [Accounts, hbusy] at h

/-- What is upheld of the deeds of a message and the reply to it: it holds of quiet replies, and it
holds once a workflow that was compiled and is valid has been stored and run or scheduled. -/
structure Upheld (s : Service) (key : InstanceKey) (P : List Deed → Response → Prop) : Prop where
  quiet {r : Response} : r.status ≠ .executed → r.status ≠ .scheduled → r.status ≠ .busy → P [] r
  saved {id : Id} {now : Time.Instant} {b : Blueprint} {params : Entries String} :
    (s.compiler.compile id now b params).validation.isValid = true →
    Does P [] (s.saveAndRun key (s.compiler.compile id now b params) params)

theorem accounts_upheld (s : Service) (key : InstanceKey) :
    s.Upheld key (s.Accounts key.agentId) where
  quiet := accounts_nil
  saved hvalid := s.saveAndRun_does key ⟨hvalid, rfl⟩ _

/-- What a turn has done: its response accounts for it, and the history is left alone. -/
def Turned (P : List Deed → Response → Prop) (history : History) (done : List Deed) (t : Turn) :
    Prop :=
  P done t.1 ∧ t.2.history = history

section Upheld

variable {s : Service} {key : InstanceKey} {P : List Deed → Response → Prop}

private theorem hold_turned (hP : s.Upheld key P) (c : Conversation) (b : Blueprint)
    (params : Entries String) (w : Workflow) : Turned P c.history [] (hold c b params w) := by
  unfold hold
  dsimp only
  split <;> exact ⟨hP.quiet nofun nofun nofun, rfl⟩

private theorem compileAndRun_does (hP : s.Upheld key P) (c : Conversation) (b : Blueprint)
    (params : Entries String) : Does (Turned P c.history) [] (s.compileAndRun key c b params) := by
  refine follows_inward rfl rfl fun id => follows_inward rfl rfl fun now => ?_
  dsimp only
  split
  · next hvalid => exact (hP.saved hvalid).bind fun done r h => .done ⟨h, rfl⟩
  · exact .done (hold_turned hP c b params _)

private theorem ofAsking_does {α : Type} (p : Model.Asking α) (before : List Deed) :
    Does (fun done _ => done = before) before (Serving.ofAsking p) := by
  induction p with
  | done a => exact .done rfl
  | ask prompt next ih => exact .ask rfl ih

private theorem planAndRun_does (hP : s.Upheld key P) (c : Conversation) (text : String)
    (params : Entries String) : Does (Turned P c.history) [] (s.planAndRun key c text params) := by
  refine (ofAsking_does _ []).bind ?_
  rintro _ (e | plan) rfl
  · exact .done ⟨hP.quiet nofun nofun nofun, rfl⟩
  · exact compileAndRun_does hP c (.plan plan) params

private theorem act_does (hP : s.Upheld key P) (c : Conversation) (text : String)
    (intent : Intent) : Does (Turned P c.history) [] (s.act key c text intent) := by
  unfold act
  split
  · exact .done ⟨hP.quiet nofun nofun nofun, rfl⟩
  · dsimp only
    split
    · exact compileAndRun_does hP c _ _
    · split
      · exact .done ⟨hP.quiet nofun nofun nofun, rfl⟩
      · split
        · exact planAndRun_does hP c text _
        · exact .done ⟨hP.quiet nofun nofun nofun, rfl⟩

private theorem cancel_turned (hP : s.Upheld key P) (c : Conversation) :
    Turned P c.history [] (cancel c) := by
  unfold cancel
  split <;> exact ⟨hP.quiet nofun nofun nofun, rfl⟩

theorem respond_does (hP : s.Upheld key P) (c : Conversation) (text : String)
    (recent : List Model.Message) :
    Does (Turned P c.history) [] (s.respond key c text recent) := by
  unfold respond
  split
  · exact .done (cancel_turned hP c)
  · dsimp only
    split
    · exact compileAndRun_does hP { c with selection := none } _ _
    · split
      · refine (ofAsking_does _ []).bind ?_
        rintro _ intent rfl
        exact act_does hP { c with selection := none } text intent
      · split
        · exact compileAndRun_does hP { c with selection := none, pending := none } _ _
        · refine (ofAsking_does _ []).bind ?_
          rintro _ intent rfl
          split
          · exact act_does hP { c with selection := none, pending := none } text intent
          · exact .done ⟨hP.quiet nofun nofun nofun, rfl⟩

private theorem Does.free {α : Type} {post : List Deed → α → Prop} {before : List Deed}
    {p : Serving α}
    (h : Does post before p) : p.Follows (collecting fun _ => True) post before := by
  induction h with
  | done hpost => exact .done hpost
  | ask _ _ ih => exact .ask trivial ih

private theorem handle_does (hP : s.Upheld key P) (serial : Nat) (c : Conversation)
    (text : String) : (s.handle key serial c text).Follows (collecting fun _ => True) P [] := by
  refine follows_inward trivial rfl fun kept => ?_
  refine (respond_does hP _ _ _).free.bind fun done turn h => ?_
  refine follows_inward trivial rfl fun ended => ?_
  refine follows_inward trivial rfl fun asked => follows_inward trivial rfl fun answered => ?_
  exact .done h.1

/-- What is upheld holds of every message, but for one that is turned away because the instance is
busy: that does nothing. -/
theorem send_upholds (hP : s.Upheld key P) (text : String) :
    (s.send key text).Follows (collecting fun _ => True)
      (fun done r => P done r ∨ (r.status = .busy ∧ done = [])) [] := by
  unfold send
  split
  · next bad hbad =>
    obtain ⟨-, rfl⟩ : _ ∧ Response.error "agent_id and session_id are required." = bad := by
      simpa [checkKey] using hbad
    exact .done (.inl (hP.quiet nofun nofun nofun))
  · split
    · exact .done (.inl (hP.quiet nofun nofun nofun))
    · refine follows_inward trivial rfl ?_
      rintro (_ | ⟨serial, c⟩)
      · exact .done (.inr ⟨rfl, rfl⟩)
      · exact (handle_does hP serial c text).mono fun done r h => .inl h

theorem send_upheld (hP : s.Upheld key P) {text : String} {log : List Deed} {r : Response}
    (h : (s.send key text).Ends log r) {x : Deed} (hx : x ∈ log)
    (hout : x.request.isOutward = true) : P (deeds log) r := by
  have hends := (send_upholds hP text).ends h
  rw [foldl_collecting, List.nil_append] at hends
  rcases hends with hholds | ⟨-, hnone⟩
  · exact hholds
  · have hmem : x ∈ deeds log := List.mem_filter.mpr ⟨hx, hout⟩
    rw [hnone] at hmem
    cases hmem

end Upheld

private theorem send_does (s : Service) (key : InstanceKey) (text : String) :
    (s.send key text).Follows (collecting fun _ => True)
      (fun done r => s.Accounts key.agentId done r ∨ (r.status = .busy ∧ done = [])) [] :=
  send_upholds (s.accounts_upheld key) text

theorem Accounts.executed {s : Service} {agentId : String} {done : List Deed} {r : Response}
    (h : s.Accounts agentId done r) {x : Deed} (hx : x ∈ done) (hdrives : x.request.drives = true) :
    r.status = .executed := by
  unfold Accounts at h
  split at h
  · assumption
  · obtain ⟨w, found, t, -, rfl, -⟩ := h
    simp only [List.mem_cons, List.not_mem_nil, or_false] at hx
    rcases hx with rfl | rfl | rfl <;> cases hdrives
  · rcases h x hx with ⟨_, _, _, rfl⟩ | ⟨_, _, rfl⟩ | ⟨_, _, rfl⟩ <;> cases hdrives
  · cases h
  · rw [h] at hx
    cases hx

private theorem Accounts.scheduled {s : Service} {agentId : String} {done : List Deed}
    {r : Response}
    (h : s.Accounts agentId done r) {t : Trigger} (ht : registering t (.ok ()) ∈ done) :
    r.status = .scheduled := by
  unfold Accounts at h
  split at h
  · obtain ⟨w, id, course, result, answer, -, -, hcourse, rfl, -⟩ := h
    rcases List.mem_cons.mp ht with hsaving | ht
    · cases hsaving
    · rcases List.mem_append.mp ht with ht | ht
      · cases hcourse _ ht
      · cases List.mem_singleton.mp ht
  · assumption
  · rcases h _ ht with ⟨_, _, _, heq⟩ | ⟨_, _, heq⟩ | ⟨_, _, heq⟩ <;> cases heq
  · cases h
  · rw [h] at ht
    cases ht

/-- A message does what the status of the reply says. Drivers are called only if the reply tells of
a run: then one workflow, valid and the agent's, was stored before, the run is its run, and one
attempt was made to record it. A trigger is stored only if the reply tells of a schedule: then it is
the one active trigger for the one workflow stored, and no driver was called. After an error neither
was done, and with every other reply nothing at all. -/
theorem send_accounts (s : Service) (key : InstanceKey) (text : String) {log : List Deed}
    {r : Response} (h : (s.send key text).Ends log r) :
    ((∃ x ∈ log, x.request.drives = true) → r.status = .executed) ∧
    (r.status = .executed → s.Ran key.agentId (deeds log) r) ∧
    ((∃ t, registering t (.ok ()) ∈ log) → r.status = .scheduled) ∧
    (r.status = .scheduled → s.Scheduled key.agentId (deeds log) r) ∧
    (r.status = .error → Failed (deeds log)) ∧
    (r.status ≠ .executed → r.status ≠ .scheduled → r.status ≠ .error → deeds log = []) := by
  have hends := (s.send_does key text).ends h
  rw [foldl_collecting, List.nil_append] at hends
  rcases hends with haccounts | ⟨hbusy, hnone⟩
  · refine ⟨?_, ?_, ?_, ?_, ?_, ?_⟩
    · rintro ⟨x, hx, hdrives⟩
      have hout := ServiceRequest.isOutward_of_drives hdrives
      exact haccounts.executed (List.mem_filter.mpr ⟨hx, hout⟩) hdrives
    · intro hr
      rwa [Accounts, hr] at haccounts
    · rintro ⟨t, ht⟩
      exact haccounts.scheduled (List.mem_filter.mpr ⟨ht, rfl⟩)
    · intro hr
      rwa [Accounts, hr] at haccounts
    · intro hr
      rwa [Accounts, hr] at haccounts
    · intro hrun hschedule herror
      unfold Accounts at haccounts
      split at haccounts <;> first | contradiction | exact haccounts
  · -- the instance was busy, so there are no deeds to account for
    have hdone {x : Deed} (hx : x ∈ log) (hout : x.request.isOutward = true) : False := by
      have hmem : x ∈ deeds log := List.mem_filter.mpr ⟨hx, hout⟩
      rw [hnone] at hmem
      cases hmem
    refine ⟨?_, by simp [hbusy], ?_, by simp [hbusy], by simp [hbusy], fun _ _ _ => hnone⟩
    · rintro ⟨x, hx, hdrives⟩
      exact (hdone hx (ServiceRequest.isOutward_of_drives hdrives)).elim
    · rintro ⟨t, ht⟩
      exact (hdone ht rfl).elim

/-- A template that posts a text. -/
def postTemplate : Template where
  id := "post"
  name := "Post"
  category := .other
  steps := [{ id := "post", driver := "board", operation := "post",
              parameters := [("text", .string "\x7b\x7btext\x7d\x7d")] }]

/-- The instance offers a template, and the repository and the driver do what they are asked. -/
def offeringPost : (r : ServiceRequest) → Nat → r.Answer × Nat
  | .beginTurn _, n =>
    (some (0, ⟨⟨5, []⟩, none, some ⟨[postTemplate], [("text", "hello")]⟩, .null⟩), n)
  | .dispatch _ calls, n => (calls.map fun _ => ⟨1, .ok .null⟩, n)
  | .repository (.saveWorkflow _ _), n | .repository (.saveRun _), n => (.ok (), n)
  | r, n => draftPost r n

/-- A template that is chosen is stored, run and recorded. -/
theorem send_accounts_offeringPost :
    ∃ log r, (board.send ⟨"agent", "session"⟩ "1").Ends log r ∧ r.status = .executed ∧
      board.Ran "agent" (deeds log) r := by
  let choice := board.send ⟨"agent", "session"⟩ "1"
  have hexecuted : (choice.run offeringPost 0).1.status = .executed := by decide +kernel
  obtain ⟨log, hends⟩ := Process.exists_ends offeringPost choice 0
  exact ⟨log, _, hends, hexecuted, (send_accounts board _ _ hends).2.1 hexecuted⟩

end Service

end Automation
