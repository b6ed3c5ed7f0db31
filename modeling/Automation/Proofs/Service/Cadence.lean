import Automation.Proofs.Service.Effects

/-!
# Requests with a cadence

Parameters that hold an interval and a unit ask for a workflow to be run again and again. It is
scheduled if the interval is a whole number. Any other interval is passed over, and the workflow is
run at once.
-/

namespace Automation

/-- The workflow was compiled with an interval and a unit, whatever their texts are. -/
structure Workflow.Repeats (w : Workflow) (interval unit : String) : Prop where
  interval : Entries.get? w.parameters "schedule_interval" = some interval
  unit : Entries.get? w.parameters "schedule_unit" = some unit

private theorem Workflow.Repeats.scheduleConfig?_isSome {w : Workflow} {interval unit : String}
    (h : w.Repeats interval unit) :
    (Reply.scheduleConfig? w.parameters).isSome = (Text.nat? UInt64.size interval).isSome := by
  rw [Reply.scheduleConfig?, h.interval, h.unit]
  dsimp only [Option.bind_eq_bind, Option.bind_some]
  cases Text.nat? UInt64.size interval <;> rfl

namespace Service

variable {s : Service} {key : InstanceKey} {w : Workflow} {log : List Deed} {r : Response}

/-- A workflow that was compiled and is valid. -/
def Compiled (s : Service) (w : Workflow) : Prop :=
  w.validation.isValid = true ∧ ∃ id now b params, w = s.compiler.compile id now b params

/-- No driver is called, and the reply is an error or tells of the trigger that was stored. -/
def Deferred (s : Service) (agentId : String) (log : List Deed) (r : Response) : Prop :=
  (∀ x ∈ log, x.request.drives = false) ∧
    (r.status = .error ∨ r.status = .scheduled ∧ s.Scheduled agentId (deeds log) r)

/-- The status that the reply has once the storing of a workflow has been answered. -/
def Due (w : Workflow) (r : Response) : Except RepositoryError Unit → Prop
  | .error _ => r.status = .error
  | .ok _ =>
    if (Reply.scheduleConfig? w.parameters).isSome then r.status = .error ∨ r.status = .scheduled
    else r.status = .executed

/-- Every workflow that is stored was compiled, and the reply is due to it. -/
def Heeded (s : Service) (agentId : String) (done : List Deed) (r : Response) : Prop :=
  ∀ w answer, saving agentId w answer ∈ done → s.Compiled w ∧ Due w r answer

/-- Whether the request is to store a workflow. -/
def storesWorkflow : ServiceRequest → Bool
  | .repository (.saveWorkflow _ _) => true
  | _ => false

private theorem schedule_status (key : InstanceKey) (w : Workflow) (config : Json.Value) :
    (schedule key w config).Ensures fun r => r.status = .error ∨ r.status = .scheduled := by
  apply Process.Ensures.bind_of_forall
  rintro (e | t)
  · exact .done (.inl rfl)
  · exact .done (.inr rfl)

private theorem runNow_status (s : Service) (hw : w.validation.isValid = true) :
    (s.runNow w).Ensures (·.status = .executed) := by
  apply Process.Ensures.bind_of_forall
  intro executionId
  refine (ensures_ofRunning s.engine (execute_ensures s.engine hw executionId)).bind ?_
  rintro _ ⟨result, rfl, -⟩
  exact .bind_of_forall fun recorded => .done rfl

private theorem schedule_asks (key : InstanceKey) (w : Workflow) (config : Json.Value) :
    (schedule key w config).Asks (storesWorkflow · = false) := by
  have hregister : (Trigger.register key.agentId w.id .timeBased config).Asks
      (storesWorkflow · = false) := by
    refine .ask rfl ?_
    rintro (e | _ | found)
    · exact .done _
    · exact .done _
    · refine .ask rfl fun id => .ask rfl fun now => ?_
      simp only [Process.andThen_done]
      cases Trigger.create id now key.agentId w.id .timeBased config with
      | error e => exact .done _
      | ok t =>
        refine .ask rfl ?_
        rintro (e | stored) <;> exact .done _
  refine hregister.bind ?_
  rintro (e | t) <;> exact .done _

private theorem runNow_asks (s : Service) (w : Workflow) :
    (s.runNow w).Asks (storesWorkflow · = false) := by
  refine .ask rfl fun executionId => ?_
  refine ((ofRunning_asks s.engine _).mono ?_).bind ?_
  · rintro r (rfl | ⟨calls, rfl⟩) <;> rfl
  · rintro (e | result)
    · exact .done _
    · exact .ask rfl fun recorded => .done _

private theorem no_saving {α : Type} {p : Serving α} {a : α}
    (hp : p.Asks (storesWorkflow · = false))
    (h : p.Ends log a) {agentId : String} {answer : Except RepositoryError Unit} :
    saving agentId w answer ∉ log := by
  intro hmem
  cases hp.course h _ hmem

private theorem saveAndRun_heeded (s : Service) (key : InstanceKey) (hw : s.Compiled w)
    (h : (s.saveAndRun key w w.parameters).Ends log r) : s.Heeded key.agentId (deeds log) r := by
  intro w' answer' hmem
  obtain ⟨answer, rest, rfl, hnext⟩ := Process.Ends.of_ask h
  -- nothing but the first exchange stores a workflow
  have hrest : saving key.agentId w' answer' ∉ rest ∧ Due w r answer := by
    rcases answer with e | stored
    · obtain ⟨rfl, rfl⟩ := Process.Ends.of_done hnext
      exact ⟨List.not_mem_nil, rfl⟩
    · simp only [Process.andThen_done] at hnext
      unfold Due
      split at hnext
      · next config hconfig =>
        rw [hconfig]
        have hstatus := (schedule_status key w config).result hnext
        exact ⟨no_saving (schedule_asks key w config) hnext, hstatus⟩
      · next hconfig =>
        rw [hconfig]
        exact ⟨no_saving (runNow_asks s w) hnext, (runNow_status s hw.1).result hnext⟩
  rcases List.mem_cons.mp (List.mem_filter.mp hmem).1 with heq | hlater
  · cases heq
    exact ⟨hw, hrest.2⟩
  · exact absurd hlater hrest.1

private theorem heeded_upheld (s : Service) (key : InstanceKey) :
    s.Upheld key fun done r => s.Accounts key.agentId done r ∧ s.Heeded key.agentId done r where
  quiet hrun hschedule hbusy := ⟨accounts_nil hrun hschedule hbusy, fun _ _ h => nomatch h⟩
  saved {id now b params} hvalid := by
    have hdoes := s.saveAndRun_does key ⟨hvalid, rfl⟩ params
    refine hdoes.logged.mono ?_
    rintro done r ⟨haccounts, course, hends, rfl⟩
    refine ⟨haccounts, ?_⟩
    rw [foldl_collecting]
    exact s.saveAndRun_heeded key ⟨hvalid, id, now, b, params, rfl⟩ hends

private theorem Due.error {e : RepositoryError} (h : Due w r (.error e)) : r.status = .error := h

private theorem Due.scheduled {stored : Unit} (h : Due w r (.ok stored))
    (hconfig : (Reply.scheduleConfig? w.parameters).isSome) :
    r.status = .error ∨ r.status = .scheduled := by
  rwa [Due, if_pos hconfig] at h

private theorem Due.executed {stored : Unit} (h : Due w r (.ok stored))
    (hconfig : ¬ (Reply.scheduleConfig? w.parameters).isSome) : r.status = .executed := by
  rwa [Due, if_neg hconfig] at h

private theorem Accounts.deferred {agentId : String} (h : s.Accounts agentId (deeds log) r)
    (hr : r.status = .error ∨ r.status = .scheduled) : s.Deferred agentId log r := by
  refine ⟨fun x hx => ?_, hr.imp_right fun hscheduled => ⟨hscheduled, ?_⟩⟩
  · refine Bool.eq_false_iff.mpr fun hdrives => ?_
    have hout := ServiceRequest.isOutward_of_drives hdrives
    have hexecuted := h.executed (List.mem_filter.mpr ⟨hx, hout⟩) hdrives
    simp [hexecuted] at hr
  · rwa [Accounts, hscheduled] at h

private theorem Deferred.not_executed {agentId : String} (h : s.Deferred agentId log r) :
    r.status ≠ .executed := by
  rcases h.2 with herror | ⟨hscheduled, -⟩
  · simp [herror]
  · simp [hscheduled]

private theorem due_of_saving {text : String} (h : (s.send key text).Ends log r)
    {answer : Except RepositoryError Unit} (hsaving : saving key.agentId w answer ∈ log) :
    s.Compiled w ∧ Due w r answer :=
  (send_upheld (s.heeded_upheld key) h hsaving rfl).2 w answer
    (List.mem_filter.mpr ⟨hsaving, rfl⟩)

/-- A driver is called only for a workflow without a schedule, which was stored before. And of a
workflow that was to be stored and has a cadence, whatever the texts of its interval and unit, the
run is put off exactly if the interval is a whole number or the storing failed. -/
theorem send_defers_iff (s : Service) (key : InstanceKey) (text : String)
    (h : (s.send key text).Ends log r) :
    ((∃ x ∈ log, x.request.drives = true) → ∃ w, s.Compiled w ∧
      saving key.agentId w (.ok ()) ∈ log ∧ Reply.scheduleConfig? w.parameters = none) ∧
    ∀ w answer interval unit, saving key.agentId w answer ∈ log → w.Repeats interval unit →
      s.Compiled w ∧ (s.Deferred key.agentId log r ↔
        (Text.nat? UInt64.size interval).isSome ∨ ∃ e, answer = .error e) := by
  refine ⟨?_, fun w answer interval unit hsaving hrepeats => ?_⟩
  · rintro ⟨x, hx, hdrives⟩
    have hout := ServiceRequest.isOutward_of_drives hdrives
    have haccounts := send_upheld (s.accounts_upheld key) h hx hout
    have hexecuted := haccounts.executed (List.mem_filter.mpr ⟨hx, hout⟩) hdrives
    have hran : s.Ran key.agentId (deeds log) r := by rwa [Accounts, hexecuted] at haccounts
    obtain ⟨w, _, _, _, _, -, -, -, hdone, -⟩ := hran
    have hsaving : saving key.agentId w (.ok ()) ∈ log :=
      (List.mem_filter.mp (hdone ▸ List.mem_cons_self)).1
    obtain ⟨hw, hdue⟩ := due_of_saving h hsaving
    refine ⟨w, hw, hsaving, Option.not_isSome_iff_eq_none.mp fun hconfig => ?_⟩
    have hstatus := hdue.scheduled hconfig
    simp [hexecuted] at hstatus
  · have haccounts := send_upheld (s.accounts_upheld key) h hsaving rfl
    obtain ⟨hw, hdue⟩ := due_of_saving h hsaving
    refine ⟨hw, ?_⟩
    rw [← hrepeats.scheduleConfig?_isSome]
    rcases answer with e | stored
    · exact iff_of_true (haccounts.deferred (.inl hdue.error)) (.inr ⟨e, rfl⟩)
    · by_cases hconfig : (Reply.scheduleConfig? w.parameters).isSome
      · exact iff_of_true (haccounts.deferred (hdue.scheduled hconfig)) (.inl hconfig)
      · refine iff_of_false (fun hdeferred => hdeferred.not_executed (hdue.executed hconfig)) ?_
        rintro (hsome | ⟨e, he⟩)
        · exact hconfig hsome
        · cases he

/-! ## Every so many hours -/

/-- The instance offers a template that is to be run every so many hours, and the repository and the
driver do what they are asked. The repository keeps the workflow that was stored last. -/
def offeringHourly (interval : String) :
    (r : ServiceRequest) → Option Workflow → r.Answer × Option Workflow
  | .beginTurn _, w =>
    let params := [("schedule_interval", interval), ("schedule_unit", "hours"),
      ("text", "stand up")]
    (some (0, ⟨⟨5, []⟩, none, some ⟨[postTemplate], params⟩, .null⟩), w)
  | .dispatch _ calls, w => (calls.map fun _ => ⟨1, .ok .null⟩, w)
  | .repository (.saveWorkflow _ w), _ => (.ok (), some w)
  | .repository (.getWorkflow _), w => (.ok w, w)
  | .repository (.createTrigger _), w | .repository (.saveRun _), w => (.ok (), w)
  | r, w => ((draftPost r 0).1, w)

/-- What is asked for the choice of the template, and how it is answered. -/
def hourlyLog (interval : String) : List Deed :=
  (board.send ⟨"agent", "session"⟩ "1").trace (offeringHourly interval) none

/-- The reply to the choice of the template. -/
def hourlyReply (interval : String) : Response :=
  ((board.send ⟨"agent", "session"⟩ "1").run (offeringHourly interval) none).1

private theorem ends_hourly (interval : String) :
    (board.send ⟨"agent", "session"⟩ "1").Ends (hourlyLog interval) (hourlyReply interval) :=
  Process.ends_trace _ _ _

/-- Whether the request is to store a workflow of the agent with this interval. -/
def storesHourly (interval : String) (x : Deed) : Bool :=
  match x.request with
  | .repository (.saveWorkflow agentId w) =>
    agentId == "agent" && Entries.get? w.parameters "schedule_interval" == some interval &&
      Entries.get? w.parameters "schedule_unit" == some "hours"
  | _ => false

private theorem exists_saving {interval : String} (h : log.any (storesHourly interval) = true) :
    ∃ w answer, saving "agent" w answer ∈ log ∧ w.Repeats interval "hours" := by
  obtain ⟨⟨request, answer⟩, hx, hstores⟩ := List.any_eq_true.mp h
  unfold storesHourly at hstores
  split at hstores
  · next agentId w hrequest =>
    obtain rfl : request = .repository (.saveWorkflow agentId w) := hrequest
    obtain ⟨⟨rfl, hinterval⟩, hunit⟩ : (agentId = "agent" ∧ _) ∧ _ := by simpa using hstores
    exact ⟨w, answer, hx, hinterval, hunit⟩
  · cases hstores

/-- A workflow for every two hours is scheduled. -/
theorem send_defers_hourly :
    ∃ log r w answer, (board.send ⟨"agent", "session"⟩ "1").Ends log r ∧
      saving "agent" w answer ∈ log ∧ w.Repeats "2" "hours" ∧ r.status = .scheduled ∧
      board.Deferred "agent" log r := by
  obtain ⟨w, answer, hsaving, hrepeats⟩ :=
    exists_saving (show (hourlyLog "2").any (storesHourly "2") = true by decide +kernel)
  have hstatus : (hourlyReply "2").status = .scheduled := by decide +kernel
  have hdeferred := (send_defers_iff board _ _ (ends_hourly "2")).2 w answer _ _ hsaving hrepeats
  exact ⟨_, _, w, answer, ends_hourly "2", hsaving, hrepeats, hstatus,
    hdeferred.2.mpr (.inl (by decide))⟩

/-- A workflow for every two hours, with the number in words, is run at once. -/
theorem send_runs_hourly :
    ∃ log r w answer, (board.send ⟨"agent", "session"⟩ "1").Ends log r ∧ board.Compiled w ∧
      saving "agent" w answer ∈ log ∧ w.Repeats "two" "hours" ∧
      (∃ x ∈ log, x.request.drives = true) ∧ r.status = .executed := by
  obtain ⟨w, answer, hsaving, hrepeats⟩ :=
    exists_saving (show (hourlyLog "two").any (storesHourly "two") = true by decide +kernel)
  have hdrives : (hourlyLog "two").any (·.request.drives) = true := by decide +kernel
  have hstatus : (hourlyReply "two").status = .executed := by decide +kernel
  exact ⟨_, _, w, answer, ends_hourly "two", (due_of_saving (ends_hourly "two") hsaving).1, hsaving,
    hrepeats, List.any_eq_true.mp hdrives, hstatus⟩

end Service

end Automation
