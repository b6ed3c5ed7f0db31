import Automation.Proofs.Session.System

/-!
# Turns

A message waits for its instance, and if it gets it keeps its text there, is answered, and keeps the
answer. What it has come to is its phase, which follows from what it has asked so far.
-/

namespace Automation.Session

open Process (Follows)

/-- What a message has come to: it has the instance with a number and a conversation, before or
after its text was kept; it has been answered with a text; or it was turned away. -/
inductive Phase where
  | waiting
  | begun (serial : Nat) (c : Conversation)
  | asked (serial : Nat) (c : Conversation)
  | answered (serial : Nat) (text : String)
  | refused

namespace Phase

/-- The text of the latest turn. -/
def lastText (h : History) : String := (h.turns.getLast?.map (·.content)).getD ""

def after : Phase → Service.Deed → Phase
  | waiting, ⟨.beginTurn _, some (serial, c)⟩ => begun serial c
  | waiting, ⟨.beginTurn _, none⟩ => refused
  | begun serial _, ⟨.keepTurn _ c, _⟩ => asked serial c
  | asked serial _, ⟨.endTurn _ c, _⟩ => answered serial (lastText c.history)
  | x, _ => x

/-- What is asked in each phase of a message to a key. -/
def Allows (key : InstanceKey) (text : String) : Phase → ServiceRequest → Prop
  | waiting, r => r = .beginTurn key
  | begun serial c, r => r = .keepTurn serial { c with history := c.history.pushUser text }
  | asked serial c, .endTurn serial' c' =>
    serial' = serial ∧ ∃ message, c'.history = c.history.pushAssistant message
  | asked _ _, r => r.isOfTable = false
  | answered _ _, r => ∃ turn, r = .logTurn key turn
  | refused, _ => False

theorem allows_beginTurn {key key' : InstanceKey} {text : String} {x : Phase}
    (h : x.Allows key text (.beginTurn key')) : x = waiting ∧ key' = key := by
  cases x with
  | waiting =>
    cases h
    exact ⟨rfl, rfl⟩
  | begun => cases h
  | asked => cases h
  | answered =>
    obtain ⟨_, h⟩ := h
    cases h
  | refused => exact h.elim

theorem allows_asked {key : InstanceKey} {text : String} {serial : Nat} {c : Conversation}
    {r : ServiceRequest} (h : (asked serial c).Allows key text r) :
    (∃ c' message, r = .endTurn serial c' ∧ c'.history = c.history.pushAssistant message) ∨
      r.isOfTable = false := by
  cases r with
  | endTurn serial' c' =>
    obtain ⟨rfl, message, hc⟩ := h
    exact .inl ⟨c', message, rfl, hc⟩
  | _ => exact .inr h

theorem after_of_not_table {x : Phase} {r : ServiceRequest} {a : r.Answer}
    (h : r.isOfTable = false) : x.after ⟨r, a⟩ = x := by
  cases x <;> cases r <;> first | rfl | cases h

/-- How a message ends: it was wrong, or turned away, or answered. -/
def Closes (key : InstanceKey) : Phase → Response → Prop
  | waiting, r => r.status = .error
  | refused, r => r = { status := .busy, message := key.busyMessage }
  | answered _ text, r => r.message = text ∧ r.status ≠ .busy
  | begun _ _, _ | asked _ _, _ => False

def rule (key : InstanceKey) (text : String) :
    Process.Rule ServiceRequest ServiceRequest.Answer Phase := ⟨after, Allows key text⟩

/-- The instance that the message has, with its conversation. -/
def held? : Phase → Option (Nat × Conversation)
  | begun serial c | asked serial c => some (serial, c)
  | _ => none

/-- The number of the instance that the message has or had. -/
def serial? : Phase → Option Nat
  | begun serial _ | asked serial _ | answered serial _ => some serial
  | _ => none

theorem serial?_of_held {x : Phase} {serial : Nat} {c : Conversation}
    (h : x.held? = some (serial, c)) : x.serial? = some serial := by
  cases x <;> cases h <;> rfl

/-- The turns of a message so far. -/
def turns (text : String) : Phase → List Model.Message
  | asked _ _ => [{ role := .user, content := text }]
  | answered _ answer =>
    [{ role := .user, content := text }, { role := .assistant, content := answer }]
  | _ => []

end Phase

variable {s : Service} {key : InstanceKey} {text : String}

theorem lastText_pushAssistant (h : History) (message : String) :
    Phase.lastText (h.pushAssistant message) = message := by
  simp [Phase.lastText, History.pushAssistant, History.push]

/-- While a message is answered its instance is left alone, and the history is not changed. -/
theorem respond_follows (s : Service) (key : InstanceKey) (serial : Nat) (asked : Conversation)
    (text text' : String) (recent : List Model.Message) :
    Follows (Phase.rule key text)
      (fun x (t : Service.Turn) => x = .asked serial asked ∧ t.2.history = asked.history ∧
        t.1.status ≠ .busy)
      (.asked serial asked) (s.respond key asked text' recent) := by
  have hdoes := Service.respond_does (s.accounts_upheld key) asked text' recent
  refine hdoes.stay (fun _ r hr => ?_) (fun _ r a hr => ?_)
    fun done t ht => ⟨rfl, ht.2, ht.1.not_busy⟩
  · cases r <;> first | exact hr | cases hr
  · cases r <;> first | rfl | cases hr

private theorem handle_follows (s : Service) (key : InstanceKey) (serial : Nat) (c : Conversation)
    (text : String) :
    Follows (Phase.rule key text) (Phase.Closes key) (.begun serial c)
      (s.handle key serial c text) := by
  refine Follows.perform rfl fun kept => ?_
  refine (respond_follows s key serial { c with history := c.history.pushUser text } text _
    _).bind ?_
  rintro _ ⟨response, answered⟩ ⟨rfl, hhistory, hbusy⟩
  have hended : answered.history.pushAssistant response.message =
      (c.history.pushUser text).pushAssistant response.message := by
    rw [hhistory]
  refine Follows.perform ⟨rfl, response.message, hended⟩ fun _ => ?_
  refine Follows.perform ⟨_, rfl⟩ fun _ => Follows.perform ⟨_, rfl⟩ fun _ => .done ?_
  exact ⟨(lastText_pushAssistant answered.history response.message).symm, hbusy⟩

private theorem send_follows (s : Service) (key : InstanceKey) (text : String) :
    Follows (Phase.rule key text) (Phase.Closes key) .waiting (s.send key text) := by
  unfold Service.send
  split
  · next bad hbad =>
    obtain ⟨-, rfl⟩ : _ ∧ Response.error "agent_id and session_id are required." = bad := by
      simpa [Service.checkKey] using hbad
    exact .done rfl
  · split
    · exact .done rfl
    · refine Follows.perform rfl ?_
      rintro (_ | ⟨serial, c⟩)
      · exact .done rfl
      · exact handle_follows s key serial c text

/-! ## Callers -/

variable {ρ : Type} {others : Surroundings ρ} {enters : Call → Prop}

/-- What a caller has come to. -/
def phase (p : Caller) : Phase := (untimed p.past).foldl Phase.after .waiting

/-- What is asked by a caller. -/
def Asked (p : Caller) (r : Request) : Prop :=
  match p.task with
  | .send key text => ∃ r', r = .service r' ∧ (phase p).Allows key text r'
  | .create key initData => r = .service (.openInstance key initData)
  | .list => r = .service .listInstances
  | .sweep => r = .sweep
  | .maybeSweep => r = .maybeSweep

theorem createInstance_asks (key : InstanceKey) (initData : Json.Value) :
    (Service.createInstance key initData).Asks (· = .openInstance key initData) := by
  unfold Service.createInstance
  split
  · exact .done _
  · exact .ask rfl fun _ => .done _

theorem listInstances_asks : Service.listInstances.Asks (· = .listInstances) :=
  .ask rfl fun _ => .done _

theorem ask_of_timed {p : Serving Response} {r : Request}
    {next : r.Answer → Process Request Request.Answer (Option Response)}
    (h : timed p = .ask r next) : ∃ r' next', p = .ask r' next' ∧ r = .service r' := by
  cases p with
  | done a => cases h
  | ask r' next' =>
    cases h
    exact ⟨r', next', rfl, rfl⟩

theorem asked_of_course {p : Caller} {r : Request}
    {next : r.Answer → Process Request Request.Answer (Option Response)}
    (h : Process.Course (p.task.process s) p.past (.ask r next)) : Asked p r := by
  obtain ⟨task, past, rest⟩ := p
  cases task with
  | send key text =>
    obtain ⟨q, hq, hc⟩ := course_timed h
    obtain ⟨r', next', rfl, rfl⟩ := ask_of_timed hq.symm
    exact ⟨r', rfl, ((send_follows s key text).course hc).allows⟩
  | create key initData =>
    obtain ⟨q, hq, hc⟩ := course_timed h
    obtain ⟨r', next', rfl, rfl⟩ := ask_of_timed hq.symm
    exact congrArg _ ((createInstance_asks key initData).of_course hc)
  | list =>
    obtain ⟨q, hq, hc⟩ := course_timed h
    obtain ⟨r', next', rfl, rfl⟩ := ask_of_timed hq.symm
    exact congrArg _ (listInstances_asks.of_course hc)
  | sweep =>
    cases h with
    | stay => rfl
    | move _ h => cases (Process.Course.of_done h).2
  | maybeSweep =>
    cases h with
    | stay => rfl
    | move _ h => cases (Process.Course.of_done h).2

theorem closes_of_course {p : Caller} {r : Option Response} (htask : p.task = .send key text)
    (h : Process.Course (p.task.process s) p.past (.done r)) :
    ∃ response, r = some response ∧ (phase p).Closes key response := by
  rw [htask] at h
  obtain ⟨q, hq, hc⟩ := course_timed h
  cases q with
  | done response =>
    cases hq
    exact ⟨response, rfl, (send_follows s key text).ends hc⟩
  | ask r next => cases hq

/-- A message asks what its phase allows, or it has ended as its phase has it. -/
theorem asks_or_ends {p : Caller} (htask : p.task = .send key text)
    (h : Process.Course (p.task.process s) p.past p.rest) :
    (∃ r next, p.rest = .ask (.service r) next ∧ (phase p).Allows key text r) ∨
      ∃ response, p.rest = .done (some response) ∧ (phase p).Closes key response := by
  cases hrest : p.rest with
  | ask r next =>
    rw [hrest] at h
    obtain ⟨r', rfl, hallows⟩ : ∃ r', r = .service r' ∧ (phase p).Allows key text r' := by
      simpa only [Asked, htask] using asked_of_course h
    exact .inl ⟨r', next, rfl, hallows⟩
  | done r =>
    rw [hrest] at h
    obtain ⟨response, rfl, hcloses⟩ := closes_of_course htask h
    exact .inr ⟨response, rfl, hcloses⟩

end Automation.Session
