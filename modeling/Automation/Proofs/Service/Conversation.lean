import Automation.Proofs.Process.Course
import Automation.Service.Requests

/-!
# What a conversation waits for

A conversation that has nothing open answers a message and is left with a question for parameters,
with an open choice, or with nothing, and the status of the reply says which. The parameters that a
waiting workflow asks for are those that compiling it again finds missing.
-/

namespace Automation

/-- A waiting workflow lacks parameters and nothing else, whenever it is compiled. -/
structure Pending.Lacking (compiler : Compiler) (p : Pending) : Prop where
  missing_ne_nil : p.missing ≠ []
  report : ∀ id now, (compiler.compile id now p.blueprint p.parameters).validation.errors = [] ∧
    (compiler.compile id now p.blueprint p.parameters).validation.missing = p.missing

namespace Conversation

/-- There is no question and no open choice. -/
def Idle (c : Conversation) : Prop := c.pending = none ∧ c.selection = none

/-- There is a question or an open choice, but not both. -/
structure Settled (compiler : Compiler) (c : Conversation) : Prop where
  one : c.pending = none ∨ c.selection = none
  lacking : ∀ p, c.pending = some p → p.Lacking compiler

private theorem Idle.settled {compiler : Compiler} {c : Conversation} (h : c.Idle) :
    c.Settled compiler := by
  obtain ⟨hp, hs⟩ := h
  refine ⟨.inl hp, fun p hpending => ?_⟩
  rw [hp] at hpending
  cases hpending

private theorem idle_reset (c : Conversation) : c.reset.Idle := ⟨rfl, rfl⟩

/-- What the conversation of an instance is after an exchange. -/
def after (serial : Nat) (c : Conversation) :
    Exchange ServiceRequest ServiceRequest.Answer → Conversation
  | ⟨.keepTurn n kept, _⟩ => if n = serial then kept else c
  | ⟨.endTurn n kept, _⟩ => if n = serial then kept else c
  | _ => c

end Conversation

/-- The reply says what the conversation waits for. -/
structure Response.Tells (compiler : Compiler) (r : Response) (c : Conversation) : Prop where
  pending : c.pending.isSome ↔ r.status = .needsInput
  selection : c.selection.isSome ↔ r.status = .awaitingSelection
  missing : ∀ p, c.pending = some p → r.missing = p.missing
  lacking : ∀ p, c.pending = some p → p.Lacking compiler

namespace Response

variable {compiler : Compiler} {r : Response} {c : Conversation}

/-- The status neither asks for anything nor offers anything. -/
def AsksNothing (r : Response) : Prop := r.status ≠ .needsInput ∧ r.status ≠ .awaitingSelection

private theorem AsksNothing.tells (hr : r.AsksNothing) (hc : c.Idle) : r.Tells compiler c := by
  obtain ⟨hp, hs⟩ := hc
  constructor
  · simp [hp, hr.1]
  · simp [hs, hr.2]
  · simp [hp]
  · simp [hp]

private theorem Tells.settled (h : r.Tells compiler c) : c.Settled compiler := by
  refine ⟨?_, h.lacking⟩
  cases hp : c.pending with
  | none => exact .inl rfl
  | some p =>
    have hneeds : r.status = .needsInput := h.pending.mp (by rw [hp]; rfl)
    cases hs : c.selection with
    | none => exact .inr rfl
    | some sel =>
      have hawaits : r.status = .awaitingSelection := h.selection.mp (by rw [hs]; rfl)
      rw [hneeds] at hawaits
      cases hawaits

end Response

namespace Compiler

theorem compile_validation (compiler : Compiler) (id id' : Id) (now now' : Time.Instant)
    (b : Blueprint) (params : Params) :
    (compiler.compile id now b params).validation =
      (compiler.compile id' now' b params).validation := rfl

/-- A workflow that is not valid though it has no errors lacks a parameter. -/
theorem missing_ne_nil_of_not_isValid {compiler : Compiler} {id : Id} {now : Time.Instant}
    {b : Blueprint} {params : Params}
    (hw : (compiler.compile id now b params).validation.isValid ≠ true)
    (he : (compiler.compile id now b params).validation.errors = []) :
    (compiler.compile id now b params).validation.missing ≠ [] := by
  intro hm
  apply hw
  change ((compiler.compile id now b params).validation.missing.isEmpty &&
    (compiler.compile id now b params).validation.errors.isEmpty) = true
  rw [hm, he]
  rfl

end Compiler

namespace Service

variable {s : Service} {key : InstanceKey} {c : Conversation}

private theorem idle_cancel (c : Conversation) : (cancel c).2.Idle := by
  unfold cancel
  split
  · exact c.idle_reset
  · next h => simpa [Conversation.Idle] using h

private theorem cancel_asksNothing (c : Conversation) : (cancel c).1.AsksNothing := by
  unfold cancel
  split <;> exact ⟨nofun, nofun⟩

private theorem schedule_asksNothing (w : Workflow) (config : Json.Value) :
    (schedule key w config).Ensures Response.AsksNothing := by
  apply Process.Ensures.bind_of_forall
  rintro (e | t) <;> exact .done ⟨nofun, nofun⟩

private theorem runNow_asksNothing (s : Service) (w : Workflow) :
    (s.runNow w).Ensures Response.AsksNothing := by
  apply Process.Ensures.bind_of_forall
  intro executionId
  apply Process.Ensures.bind_of_forall
  rintro (e | result)
  · exact .done ⟨nofun, nofun⟩
  · exact .bind_of_forall fun saved => .done ⟨nofun, nofun⟩

private theorem saveAndRun_asksNothing (s : Service) (w : Workflow) (params : Entries String) :
    (s.saveAndRun key w params).Ensures Response.AsksNothing := by
  apply Process.Ensures.bind_of_forall
  rintro (e | saved)
  · exact .done ⟨nofun, nofun⟩
  · dsimp only
    cases Reply.scheduleConfig? params with
    | some config => exact schedule_asksNothing w config
    | none => exact s.runNow_asksNothing w

private theorem hold_tells (hc : c.Idle) {id : Id} {now : Time.Instant} {b : Blueprint}
    {params : Entries String}
    (hw : (s.compiler.compile id now b params).validation.isValid ≠ true) :
    (hold c b params (s.compiler.compile id now b params)).1.Tells s.compiler
      (hold c b params (s.compiler.compile id now b params)).2 := by
  by_cases he : (s.compiler.compile id now b params).validation.errors = []
  · have hmissing := Compiler.missing_ne_nil_of_not_isValid hw he
    have hlacking : (⟨b, params, (s.compiler.compile id now b params).validation.missing⟩ :
        Pending).Lacking s.compiler := by
      refine ⟨hmissing, fun id' now' => ?_⟩
      rw [s.compiler.compile_validation id' id now' now]
      exact ⟨he, rfl⟩
    simp only [hold, he, List.isEmpty_nil, if_true]
    constructor
    · simp
    · simp [hc.2]
    · rintro p ⟨⟩
      rfl
    · rintro p ⟨⟩
      exact hlacking
  · have hsome : (s.compiler.compile id now b params).validation.errors.isEmpty = false :=
      List.isEmpty_eq_false_iff.mpr he
    simp only [hold, hsome, Bool.false_eq_true, if_false]
    exact Response.AsksNothing.tells ⟨nofun, nofun⟩ hc

private theorem compileAndRun_tells (s : Service) (hc : c.Idle) (b : Blueprint)
    (params : Entries String) :
    (s.compileAndRun key c b params).Ensures fun t => t.1.Tells s.compiler t.2 := by
  apply Process.Ensures.bind_of_forall
  intro id
  apply Process.Ensures.bind_of_forall
  intro now
  dsimp only
  split
  · apply Process.Ensures.bind (s.saveAndRun_asksNothing _ params)
    intro response hr
    exact .done (hr.tells c.idle_reset)
  · next hw => exact .done (hold_tells hc hw)

private theorem offerChoice_tells (compiler : Compiler) (hc : c.Idle) (candidates : List Candidate)
    (params : Entries String) :
    (offerChoice c candidates params).1.Tells compiler (offerChoice c candidates params).2 := by
  constructor
  · simp [offerChoice, hc.1]
  · simp [offerChoice]
  · simp [offerChoice, hc.1]
  · simp [offerChoice, hc.1]

private theorem planAndRun_tells (s : Service) (hc : c.Idle) (text : String)
    (params : Entries String) :
    (s.planAndRun key c text params).Ensures fun t => t.1.Tells s.compiler t.2 := by
  apply Process.Ensures.bind_of_forall
  rintro (e | plan)
  · exact .done (Response.AsksNothing.tells ⟨nofun, nofun⟩ hc)
  · exact s.compileAndRun_tells hc (.plan plan) params

private theorem act_tells (s : Service) (hc : c.Idle) (text : String) (intent : Intent) :
    (s.act key c text intent).Ensures fun t => t.1.Tells s.compiler t.2 := by
  unfold act
  split
  · exact .done (Response.AsksNothing.tells ⟨nofun, nofun⟩ hc)
  · dsimp only
    split
    · exact s.compileAndRun_tells hc _ _
    · split
      · exact .done (offerChoice_tells s.compiler hc _ _)
      · split
        · exact s.planAndRun_tells hc text _
        · exact .done (Response.AsksNothing.tells ⟨nofun, nofun⟩ hc)

private theorem remind_tells {compiler : Compiler} {p : Pending} (hp : c.pending = some p)
    (hs : c.selection = none) (hl : p.Lacking compiler) : (remind p).Tells compiler c := by
  constructor
  · simp [hp, remind]
  · simp [hs, remind]
  · intro q hq
    rw [hp] at hq
    cases hq
    rfl
  · intro q hq
    rw [hp] at hq
    cases hq
    exact hl

private theorem respond_tells (s : Service) (hc : c.Settled s.compiler) (text : String)
    (recent : List Model.Message) :
    (s.respond key c text recent).Ensures fun t => t.1.Tells s.compiler t.2 := by
  cases hcancel : Reply.isCancel text with
  | true =>
    rw [respond, if_pos hcancel]
    exact .done ((cancel_asksNothing c).tells (idle_cancel c))
  | false =>
    rw [respond, if_neg (Bool.not_eq_true _ ▸ hcancel)]
    dsimp only
    cases hpicked : picked? text c.selection with
    | some picked =>
      obtain ⟨t, params⟩ := picked
      have hselection : c.selection ≠ none := by
        intro hnone
        rw [hnone] at hpicked
        cases hpicked
      have hidle : ({ c with selection := none } : Conversation).Idle :=
        ⟨hc.one.resolve_right hselection, rfl⟩
      exact s.compileAndRun_tells hidle (.template t) params
    | none =>
      cases hpending : c.pending with
      | none =>
        apply Process.Ensures.bind_of_forall
        intro intent
        exact s.act_tells ⟨rfl, rfl⟩ text intent
      | some p =>
        dsimp only
        split
        · exact s.compileAndRun_tells ⟨rfl, rfl⟩ p.blueprint _
        · apply Process.Ensures.bind_of_forall
          intro intent
          split
          · exact s.act_tells ⟨rfl, rfl⟩ text intent
          · exact .done (remind_tells rfl rfl (hc.lacking p hpending))

private theorem respond_idle (s : Service) (c : Conversation) {text : String}
    (recent : List Model.Message) (hcancel : Reply.isCancel text = true) :
    (s.respond key c text recent).Ensures fun t => t.2.Idle := by
  unfold respond
  rw [if_pos hcancel]
  exact .done (idle_cancel c)

/-! ## Messages -/

/-- An instance with this conversation handles a message with this response, and then has that
conversation. -/
def Handled (s : Service) (key : InstanceKey) (serial : Nat) (c : Conversation) (text : String)
    (r : Response) (c' : Conversation) : Prop :=
  ∃ log, (s.handle key serial c text).Ends log r ∧
    log.foldl (Conversation.after serial) c = c'

/-- The conversations that an instance may have after some messages. -/
inductive Reached (s : Service) (key : InstanceKey) (serial : Nat) (c : Conversation) :
    Conversation → Prop where
  | start : Reached s key serial c c
  | message {c₁ c₂ : Conversation} {text : String} {r : Response} :
      Reached s key serial c c₁ → Handled s key serial c₁ text r c₂ → Reached s key serial c c₂

/-- A handled message is answered with the response of a turn, and the conversation after it is that
of the turn but for the history. -/
theorem Handled.turn {serial : Nat} {text : String} {r : Response} {c' : Conversation}
    (h : Handled s key serial c text r c') :
    ∃ asked recent log t, asked.pending = c.pending ∧ asked.selection = c.selection ∧
      (s.respond key asked (Text.trim text) recent).Ends log t ∧ t.1 = r ∧
      c'.pending = t.2.pending ∧ c'.selection = t.2.selection := by
  obtain ⟨log, hends, hafter⟩ := h
  obtain ⟨_, log₁, rest, rfl, hkeep, hrest⟩ := Process.Ends.of_bind hends
  obtain ⟨⟨response, answered⟩, log₂, tail, rfl, hrespond, htail⟩ := Process.Ends.of_bind hrest
  obtain ⟨_, log₃, rfl, hended⟩ := Process.Ends.of_ask htail
  obtain ⟨_, log₄, rfl, hasked⟩ := Process.Ends.of_ask hended
  obtain ⟨_, log₅, rfl, hanswered⟩ := Process.Ends.of_ask hasked
  obtain ⟨rfl, rfl⟩ := Process.Ends.of_done hanswered
  refine ⟨{ c with history := c.history.pushUser text }, _, log₂, (r, answered), rfl, rfl,
    hrespond, rfl, ?_, ?_⟩
  · rw [← hafter]
    simp [Conversation.after]
  · rw [← hafter]
    simp [Conversation.after]

theorem Handled.tells {serial : Nat} {text : String} {r : Response} {c' : Conversation}
    (hc : c.Settled s.compiler) (h : Handled s key serial c text r c') :
    r.Tells s.compiler c' := by
  obtain ⟨asked, recent, log, t, hp, hs, hends, rfl, hp', hs'⟩ := h.turn
  have hasked : asked.Settled s.compiler := by
    constructor
    · rw [hp, hs]
      exact hc.one
    · intro p hpending
      exact hc.lacking p (hp ▸ hpending)
  have htells := (s.respond_tells hasked (Text.trim text) recent).result hends
  constructor
  · rw [hp']
    exact htells.pending
  · rw [hs']
    exact htells.selection
  · rw [hp']
    exact htells.missing
  · rw [hp']
    exact htells.lacking

private theorem Handled.idle {serial : Nat} {text : String} {r : Response} {c' : Conversation}
    (hcancel : Reply.isCancel (Text.trim text) = true) (h : Handled s key serial c text r c') :
    c'.Idle := by
  obtain ⟨asked, recent, log, t, -, -, hends, -, hp', hs'⟩ := h.turn
  have hidle := (s.respond_idle asked recent hcancel).result hends
  exact ⟨hp'.trans hidle.1, hs'.trans hidle.2⟩

private theorem Reached.settled {serial : Nat} {c' : Conversation} (hc : c.Idle)
    (h : Reached s key serial c c') : c'.Settled s.compiler := by
  induction h with
  | start => exact hc.settled
  | message _ hhandled ih => exact (hhandled.tells ih).settled

/-- In a conversation that began with nothing open every reply says what the conversation waits for
after it, and after a cancellation it waits for nothing. -/
theorem reply_tells (s : Service) {key : InstanceKey} {serial : Nat} {c₀ c c' : Conversation}
    {text : String} {r : Response} (h₀ : c₀.Idle) (hc : Reached s key serial c₀ c)
    (h : Handled s key serial c text r c') :
    r.Tells s.compiler c' ∧ (Reply.isCancel (Text.trim text) = true → c'.Idle) :=
  ⟨h.tells (hc.settled h₀), fun hcancel => h.idle hcancel⟩

/-- A service with one operation, which requires a text. -/
def board : Service where
  registry :=
    ⟨[("board", { name := "board", operations := [{ name := "post", required := ["text"] }] })]⟩
  catalog := {}
  hasModel := true

/-- The model takes what it is asked first for a request and then plans a post without a text. The
number counts what it was asked. -/
def draftPost : (r : ServiceRequest) → Nat → r.Answer × Nat
  | .complete _, 0 => (.ok "\x7b\"is_automation\": true, \"category\": \"other\"\x7d", 1)
  | .complete _, n + 1 => (.ok ("\x7b\"name\": \"post\", \"steps\": [\x7b\"step_id\": \"post\", " ++
      "\"driver\": \"board\", \"operation\": \"post\", \"parameters\": \x7b\"text\": \"\"\x7d\x7d]\x7d"),
      n + 2)
  | .now, n => (⟨0, 0⟩, n)
  | .freshId, n => (.generated n, n)
  | .dispatch _ _, n => ([], n)
  | .repository _, n => (.error (.failed "closed"), n)
  | .claim _, n | .removeInstance _, n | .isPolling, n | .startPolling, n | .keepsPolling, n
  | .restPolling _, n => (false, n)
  | .claimed, n => ([], n)
  | .awaitRun id, n => (.error ⟨id, {}⟩, n)
  | .openInstance _ _, n => (.null, n)
  | .beginTurn _, n => (none, n)
  | .listInstances, n => ([], n)
  | .logTurn _ _, n | .release _, n | .launch _ _, n | .keepTurn _ _, n | .endTurn _ _, n
  | .clearInstances, n | .stopPolling, n => ((), n)

/-- A request leaves a question open, and a cancellation drops it. -/
theorem reply_tells_draftPost :
    ∃ c₁ r₁ c₂ r₂,
      Handled board ⟨"agent", "session"⟩ 0 ⟨⟨5, []⟩, none, none, .null⟩ "Post it" r₁ c₁ ∧
      r₁.status = .needsInput ∧ c₁.pending.isSome ∧ c₁.selection = none ∧
      Handled board ⟨"agent", "session"⟩ 0 c₁ "Never mind." r₂ c₂ ∧ c₂.Idle := by
  let key : InstanceKey := ⟨"agent", "session"⟩
  let c₀ : Conversation := ⟨⟨5, []⟩, none, none, .null⟩
  let first := board.handle key 0 c₀ "Post it"
  have hneeds : (first.run draftPost 0).1.status = .needsInput := by decide +kernel
  obtain ⟨log₁, hends₁⟩ := Process.exists_ends draftPost first 0
  have h₁ : Handled board key 0 c₀ "Post it" _ _ := ⟨log₁, hends₁, rfl⟩
  have htells₁ := (reply_tells board ⟨rfl, rfl⟩ .start h₁).1
  let c₁ := log₁.foldl (Conversation.after 0) c₀
  have hpending : c₁.pending.isSome := htells₁.pending.mpr hneeds
  have hselection : c₁.selection = none := htells₁.settled.one.resolve_left fun hnone => by
    rw [hnone] at hpending
    cases hpending
  obtain ⟨log₂, hends₂⟩ := Process.exists_ends draftPost (board.handle key 0 c₁ "Never mind.") 2
  have h₂ : Handled board key 0 c₁ "Never mind." _ _ := ⟨log₂, hends₂, rfl⟩
  have hidle := (reply_tells board ⟨rfl, rfl⟩ (.message .start h₁) h₂).2 (by decide)
  exact ⟨_, _, _, _, h₁, hneeds, hpending, hselection, h₂, hidle⟩

end Service

end Automation
