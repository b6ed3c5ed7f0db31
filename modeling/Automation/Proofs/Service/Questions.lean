import Automation.Proofs.Service.Conversation
import Automation.Proofs.Workflow.Validity

/-!
# Questions for parameters

A question for parameters names just what the compiled workflow lacks, and the workflow waits for
the answer if that is all that is wrong with it. If there are structural errors too, the question is
put all the same, the workflow does not wait for the answer, and the errors are not said.
-/

namespace Automation

namespace Response

/-- The first words of the texts that ask for parameters: of a question, and of a reminder of it. -/
def questionWords : List String :=
  ["I need a bit more information before I can run this. What is the ", "I still need the "]

/-- The text asks for parameters. -/
def AsksForParameters (r : Response) : Prop :=
  ∃ words ∈ questionWords, words.toList <+: r.message.toList

/-- The text begins with words that begin no question. -/
def Remarks (r : Response) : Prop :=
  ∃ words : String, words.toList <+: r.message.toList ∧
    ∀ q ∈ questionWords, ¬ q.toList <+: words.toList ∧ ¬ words.toList <+: q.toList

private theorem Remarks.not_asks {r : Response} (h : r.Remarks) : ¬ r.AsksForParameters := by
  obtain ⟨words, hwords, hother⟩ := h
  rintro ⟨q, hq, hprefix⟩
  rcases List.prefix_or_prefix_of_prefix hprefix hwords with h | h
  · exact (hother q hq).1 h
  · exact (hother q hq).2 h

/-- The reply names a workflow and asks for just the parameters that it lacks. The status tells
whether this is all that is wrong with it. -/
structure AsksFor (r : Response) (p : Pending) (w : Workflow) : Prop where
  workflow : r.workflowId = some w.id
  message : r.message = Report.asking p.missing
  missing : r.missing = p.missing
  lacking : w.validation.missing = p.missing ∧ p.missing ≠ []
  status : r.status = if w.validation.errors = [] then .needsInput else .error

end Response

namespace Service

variable {s : Service} {key : InstanceKey} {c : Conversation} {left : Option Pending}

/-! ## Other texts -/

private theorem cancel_remarks (c : Conversation) : (cancel c).1.Remarks := by
  unfold cancel
  split
  · exact ⟨"Okay, I've dropped that.", List.prefix_rfl, by decide⟩
  · exact ⟨"There's nothing to cancel.", List.prefix_rfl, by decide⟩

private theorem noMatch_remarks : noMatch.Remarks :=
  ⟨"I couldn't find a workflow for that request. ", by decide, by decide⟩

private theorem schedule_remarks (w : Workflow) (config : Json.Value) :
    (schedule key w config).Ensures Response.Remarks := by
  apply Process.Ensures.bind_of_forall
  rintro (e | t)
  · exact .done ⟨"I couldn't schedule that: ", by simp [Response.error], by decide⟩
  · exact .done ⟨"Scheduled ", by simp [String.append_assoc], by decide⟩

private theorem runNow_remarks (s : Service) (w : Workflow) :
    (s.runNow w).Ensures Response.Remarks := by
  apply Process.Ensures.bind_of_forall
  intro executionId
  apply Process.Ensures.bind_of_forall
  rintro (e | result)
  · exact .done ⟨"I couldn't run that workflow: ", by simp [Response.error], by decide⟩
  · apply Process.Ensures.bind_of_forall
    intro saved
    exact .done ⟨"Ran ", by simp [String.append_assoc], by decide⟩

private theorem saveAndRun_remarks (s : Service) (w : Workflow) (params : Entries String) :
    (s.saveAndRun key w params).Ensures Response.Remarks := by
  apply Process.Ensures.bind_of_forall
  rintro (e | saved)
  · exact .done ⟨"I couldn't save the workflow: ", by simp [Response.error], by decide⟩
  · dsimp only
    cases Reply.scheduleConfig? params with
    | some config => exact schedule_remarks w config
    | none => exact s.runNow_remarks w

private theorem offerChoice_remarks (c : Conversation) (candidates : List Candidate)
    (params : Entries String) : (offerChoice c candidates params).1.Remarks :=
  ⟨"I found a few workflows that could fit:", by simp [offerChoice, String.append_assoc], by decide⟩

/-! ## Questions -/

/-- If the reply of a turn asks for parameters, it reminds of what the conversation waits for, or
it asks for what a compiled workflow lacks. The conversation then waits for this workflow if that is
all that is wrong with it, and else only for what is left. -/
def AsksAptly (compiler : Compiler) (left : Option Pending) (t : Turn) : Prop :=
  t.1.AsksForParameters → ∃ p : Pending,
    t.1 = remind p ∧ t.2.pending = some p ∨
      ∃ id now,
        let w := compiler.compile id now p.blueprint p.parameters
        t.1.AsksFor p w ∧ t.2.pending = if w.validation.errors = [] then some p else left

private theorem asksAptly_of_remarks {compiler : Compiler} {t : Turn} (h : t.1.Remarks) :
    AsksAptly compiler left t :=
  fun hasks => absurd hasks h.not_asks

/-- The question on a workflow that is not valid asks for what is missing, and else says what is
wrong. -/
theorem hold_message (c : Conversation) (b : Blueprint) (params : Entries String) {w : Workflow}
    (hw : w.validation.isValid ≠ true) : (hold c b params w).1.message =
      if w.validation.missing = [] then Report.complaint w.validation.errors
      else Report.asking w.validation.missing := by
  have hmessage : (hold c b params w).1.message = w.validation.question.getD "" := by
    dsimp only [hold]
    split <;> rfl
  rw [hmessage, Report.question, if_neg hw]
  by_cases hm : w.validation.missing = [] <;> simp [hm]

private theorem complaint_remarks {r : Response} {errors : List String}
    (h : r.message = Report.complaint errors) : r.Remarks := by
  have heq : Report.complaint errors = "I couldn't build that workflow: " ++
      String.intercalate "; " errors ++ ". Could you rephrase the request?" := rfl
  exact ⟨"I couldn't build that workflow: ", by simp [h, heq, String.append_assoc], by decide⟩

private theorem asking_asks {r : Response} {missing : List String}
    (h : r.message = Report.asking missing) : r.AsksForParameters := by
  have heq : Report.asking missing = "I need a bit more information before I can run this. " ++
      "What is the " ++ Report.spoken missing ++ "?" := rfl
  exact ⟨_, List.mem_cons_self, by simp [h, heq, String.append_assoc]⟩

private theorem hold_asksAptly {id : Id} {now : Time.Instant} {b : Blueprint}
    {params : Entries String}
    (hw : (s.compiler.compile id now b params).validation.isValid ≠ true) :
    AsksAptly s.compiler c.pending (hold c b params (s.compiler.compile id now b params)) := by
  have hmessage := hold_message c b params hw
  by_cases hm : (s.compiler.compile id now b params).validation.missing = []
  · rw [if_pos hm] at hmessage
    exact asksAptly_of_remarks (complaint_remarks hmessage)
  · rw [if_neg hm] at hmessage
    intro _
    refine ⟨⟨b, params, (s.compiler.compile id now b params).validation.missing⟩,
      .inr ⟨id, now, ?_⟩⟩
    by_cases he : (s.compiler.compile id now b params).validation.errors = []
    · refine ⟨⟨?_, hmessage, ?_, ⟨rfl, hm⟩, ?_⟩, ?_⟩ <;> simp [hold, he]
    · refine ⟨⟨?_, hmessage, ?_, ⟨rfl, hm⟩, ?_⟩, ?_⟩ <;> simp [hold, he]

private theorem compileAndRun_asksAptly (s : Service) (hc : c.pending = left) (b : Blueprint)
    (params : Entries String) :
    (s.compileAndRun key c b params).Ensures (AsksAptly s.compiler left) := by
  apply Process.Ensures.bind_of_forall
  intro id
  apply Process.Ensures.bind_of_forall
  intro now
  dsimp only
  split
  · apply Process.Ensures.bind (s.saveAndRun_remarks _ params)
    intro response hr
    exact .done (asksAptly_of_remarks hr)
  · next hw => exact .done (hc ▸ hold_asksAptly hw)

/-- Structural errors are said just if nothing is missing too. -/
theorem compileAndRun_complains_iff (s : Service) (c : Conversation) {b : Blueprint}
    {params : Entries String} {id : Id} {now : Time.Instant} {errors : List String}
    (herrors : (s.compiler.compile id now b params).validation.errors = errors)
    (hne : errors ≠ []) :
    (s.compileAndRun key c b params).Ensures fun t => t.1.message = Report.complaint errors ↔
      (s.compiler.compile id now b params).validation.missing = [] := by
  apply Process.Ensures.bind_of_forall
  intro id'
  apply Process.Ensures.bind_of_forall
  intro now'
  have hreport := s.compiler.compile_validation id' id now' now b params
  have hw : (s.compiler.compile id' now' b params).validation.isValid ≠ true := fun hvalid =>
    hne (by rw [← herrors, ← hreport]; exact Compiler.validate_errors hvalid)
  dsimp only
  rw [if_neg hw]
  refine .done ?_
  have hmessage := hold_message c b params hw
  rw [hreport, herrors] at hmessage
  by_cases hm : (s.compiler.compile id now b params).validation.missing = []
  · exact iff_of_true (by rw [hmessage, if_pos hm]) hm
  · rw [if_neg hm] at hmessage
    refine iff_of_false (fun heq => ?_) hm
    exact (complaint_remarks heq).not_asks (asking_asks hmessage)

private theorem act_asksAptly (s : Service) (hc : c.pending = left) (text : String)
    (intent : Intent) : (s.act key c text intent).Ensures (AsksAptly s.compiler left) := by
  unfold act
  split
  · exact .done (asksAptly_of_remarks ⟨introduction, List.prefix_rfl, by decide +kernel⟩)
  · dsimp only
    split
    · exact s.compileAndRun_asksAptly hc _ _
    · split
      · exact .done (asksAptly_of_remarks (offerChoice_remarks c _ _))
      · split
        · apply Process.Ensures.bind_of_forall
          rintro (e | plan)
          · exact .done (asksAptly_of_remarks noMatch_remarks)
          · exact s.compileAndRun_asksAptly hc _ _
        · exact .done (asksAptly_of_remarks noMatch_remarks)

/-- What the conversation goes on waiting for when the message picks an option of an open choice. -/
def kept (c : Conversation) (text : String) : Option Pending :=
  if (picked? text c.selection).isSome then c.pending else none

private theorem respond_asksAptly (s : Service) (c : Conversation) (text : String)
    (recent : List Model.Message) :
    (s.respond key c text recent).Ensures (AsksAptly s.compiler (kept c text)) := by
  cases hcancel : Reply.isCancel text with
  | true =>
    rw [respond, if_pos hcancel]
    exact .done (asksAptly_of_remarks (cancel_remarks c))
  | false =>
    rw [respond, if_neg (Bool.not_eq_true _ ▸ hcancel)]
    dsimp only
    cases hpicked : picked? text c.selection with
    | some picked =>
      have hkept : kept c text = c.pending := by rw [kept, hpicked, Option.isSome_some, if_pos rfl]
      rw [hkept]
      obtain ⟨t, params⟩ := picked
      exact s.compileAndRun_asksAptly (by rfl) (.template t) params
    | none =>
      have hkept : kept c text = none := by simp [kept, hpicked]
      rw [hkept]
      cases hpending : c.pending with
      | none =>
        apply Process.Ensures.bind_of_forall
        intro intent
        exact s.act_asksAptly (by rfl) text intent
      | some p =>
        dsimp only
        split
        · exact s.compileAndRun_asksAptly (by rfl) p.blueprint _
        · apply Process.Ensures.bind_of_forall
          intro intent
          split
          · exact s.act_asksAptly (by rfl) text intent
          · exact .done fun _ => ⟨p, .inl ⟨rfl, rfl⟩⟩

/-- A reply that asks for parameters reminds of what the conversation waits for, or it asks for just
those that a compiled workflow lacks. This workflow then waits for them if the report on it has no
structural errors; otherwise it does not wait, and the conversation at most goes on waiting for what
it waited for before. The reply to a workflow with structural errors says what they are just if no
parameters are missing too. -/
theorem asked_waits_iff (s : Service) {key : InstanceKey} {c : Conversation} :
    (∀ {serial : Nat} {c' : Conversation} {text : String} {r : Response},
      Handled s key serial c text r c' → r.AsksForParameters → ∃ p : Pending,
        r = remind p ∧ c'.pending = some p ∨
          ∃ id now,
            let w := s.compiler.compile id now p.blueprint p.parameters
            r.AsksFor p w ∧
              c'.pending = if w.validation.errors = [] then some p else kept c (Text.trim text)) ∧
    ∀ (b : Blueprint) (params : Entries String) (id : Id) (now : Time.Instant),
      let report := (s.compiler.compile id now b params).validation
      report.errors ≠ [] → ∀ {log t}, (s.compileAndRun key c b params).Ends log t →
        (t.1.message = Report.complaint report.errors ↔ report.missing = []) := by
  constructor
  · intro serial c' text r h hasks
    obtain ⟨asked, recent, log, t, hp, hs, hends, rfl, hp', -⟩ := h.turn
    have hkept : kept asked (Text.trim text) = kept c (Text.trim text) := by rw [kept, kept, hp, hs]
    have haptly := (s.respond_asksAptly asked (Text.trim text) recent).result hends
    rw [hp', ← hkept]
    exact haptly hasks
  · intro b params id now report hne log t hends
    exact (s.compileAndRun_complains_iff c rfl hne).result hends

/-- A template for a post, whose text is to be given. -/
def posting : Template where
  id := "post"
  name := "Post"
  category := .tasks
  steps := [{ id := "post", driver := "board", operation := "post" }]

/-- The template for a post with a second step, whose driver is not there. -/
def copying : Template :=
  { posting with
    steps := posting.steps ++ [{ id := "copy", driver := "disk", operation := "put" }] }

/-- A conversation in which one template may be chosen. -/
def offering (t : Template) : Conversation := ⟨⟨5, []⟩, none, some ⟨[t], []⟩, .null⟩

/-- The post that was chosen waits for its text. -/
theorem asked_waits_iff_posting :
    ∃ r c', Handled board ⟨"agent", "session"⟩ 0 (offering posting) "1" r c' ∧
      r.AsksForParameters ∧ r.missing = ["text"] ∧ c'.pending.map (·.missing) = some ["text"] := by
  let key : InstanceKey := ⟨"agent", "session"⟩
  let choose := board.handle key 0 (offering posting) "1"
  obtain ⟨log, hends⟩ := Process.exists_ends draftPost choose 0
  have hhandled : Handled board key 0 (offering posting) "1" _ _ := ⟨log, hends, rfl⟩
  have hreply : (fun r : Response => (r.status, r.message, r.missing)) (choose.run draftPost 0).1 =
      (.needsInput, Report.asking ["text"], ["text"]) := by
    decide +kernel
  obtain ⟨hneeds, hmessage, hmissing⟩ := by simpa only [Prod.mk.injEq] using hreply
  have hasks := asking_asks hmessage
  refine ⟨_, _, hhandled, hasks, hmissing, ?_⟩
  obtain ⟨p, ⟨hremind, hpending⟩ | ⟨id, now, hfor, hpending⟩⟩ :=
    (asked_waits_iff board).1 hhandled hasks
  · rw [hpending, Option.map_some, ← hmissing, hremind]
    rfl
  · rw [hfor.status] at hneeds
    split at hneeds
    · next herrors =>
      rw [hpending, if_pos herrors, Option.map_some, ← hfor.missing, hmissing]
    · cases hneeds

/-- The reply asks for the text of the post and says nothing of the driver, and nothing waits for
the answer. -/
theorem asked_waits_copying :
    ∃ r c', Handled board ⟨"agent", "session"⟩ 0 (offering copying) "1" r c' ∧
      r.AsksForParameters ∧
      r.message = "I need a bit more information before I can run this. What is the text?" ∧
      c'.pending = none := by
  let key : InstanceKey := ⟨"agent", "session"⟩
  let choose := board.handle key 0 (offering copying) "1"
  obtain ⟨log, hends⟩ := Process.exists_ends draftPost choose 0
  have hhandled : Handled board key 0 (offering copying) "1" _ _ := ⟨log, hends, rfl⟩
  have hsettled : (offering copying).Settled board.compiler := ⟨.inl rfl, nofun⟩
  have hreply : (fun r : Response => (r.status, r.message)) (choose.run draftPost 0).1 =
      (.error, Report.asking ["text"]) := by
    decide +kernel
  obtain ⟨herror, hmessage⟩ := by simpa only [Prod.mk.injEq] using hreply
  refine ⟨_, _, hhandled, asking_asks hmessage, hmessage, ?_⟩
  have htells := hhandled.tells hsettled
  rw [← Option.not_isSome_iff_eq_none, htells.pending, herror]
  nofun

end Service

end Automation
