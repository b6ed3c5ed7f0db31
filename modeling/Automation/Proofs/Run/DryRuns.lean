import Automation.Proofs.Driver.DryRun
import Automation.Proofs.Run.Explained
import Automation.Proofs.Run.Rehearsal

/-!
# Runs on dry-run drivers

The calls of a run are answered by drivers that stand at a bench, each as its script and the earlier
calls have left it. What dry-run drivers declare stays, and validation has looked at it before the
run: no call names an operation that its driver does not declare, and none lacks a parameter but for
a reference that stands for null.
-/

namespace Automation

open Json

/-! ## Benches -/

/-- Dry-run drivers stand at the bench, and they declare what the registry says. -/
def Bench.Rehearses (b : Bench) (registry : Registry) : Prop :=
  ∀ name d, Entries.get? b name = some d →
    ∃ r : DryRun, d = .dryRun r ∧ Entries.get? registry.drivers name = some r.info

private theorem Bench.rehearses_registry {b : Bench}
    (h : ∀ name d, Entries.get? b name = some d → ∃ r, d = .dryRun r) : b.Rehearses b.registry := by
  intro name d hd
  obtain ⟨r, rfl⟩ := h name d hd
  exact ⟨r, rfl, by rw [registry, Entries.get?_mapValues, hd]; rfl⟩

private theorem Bench.Rehearses.insert {b : Bench} {registry : Registry} (h : b.Rehearses registry)
    {name : String} {r r' : DryRun} (hr : Entries.get? b name = some (.dryRun r))
    (hinfo : r'.info = r.info) : Bench.Rehearses (Entries.insert b name (.dryRun r')) registry := by
  intro other d hd
  rw [Entries.get?_insert] at hd
  split at hd
  · next heq =>
    subst heq
    obtain rfl := Option.some.inj hd
    obtain ⟨r₀, hr₀, hget⟩ := h name _ hr
    obtain rfl : r = r₀ := Driver.dryRun.inj hr₀
    exact ⟨r', rfl, hinfo ▸ hget⟩
  · exact h other d hd

namespace Run

variable {b : Bench} {registry : Registry} {log : List Event}

private theorem Served.exists_answer (h : Served b log) (hb : b.Rehearses registry) {c : StepCall}
    {k : Nat} {o : Outcome} (ho : .called c k (some o) ∈ log) : ∃ (d : DryRun) (id : Id),
      Entries.get? registry.drivers c.driver = some d.info ∧
        o = (d.answer id c.operation c.parameters).1 := by
  induction h with
  | quiet => cases ho
  | received operation parameters context hd _ ih =>
    obtain ⟨r, rfl, -⟩ := hb _ _ hd
    exact ih (hb.insert hd rfl) ho
  | @answered b log c' k' d id hd _ ih =>
    obtain ⟨r, rfl, hinfo⟩ := hb _ _ hd
    rcases List.mem_cons.mp ho with heq | ho
    · obtain ⟨rfl, rfl, hanswer⟩ := Event.called.inj heq
      exact ⟨r, id, hinfo, Option.some.inj hanswer⟩
    · exact ih (hb.insert hd (r.answer_info id c'.operation c'.parameters)) ho
  | late _ ih =>
    rcases List.mem_cons.mp ho with heq | ho
    · cases heq
    · exact ih hb ho
  | recorded _ ih =>
    rcases List.mem_cons.mp ho with heq | ho
    · cases heq
    · exact ih hb ho

/-- The parameter is required of the call, and the step that is called for holds a reference in it
that stands for null. -/
def NullReference (registry : Registry) (w : Workflow) (c : StepCall) (p : String) : Prop :=
  ∃ step text ref, w.steps[c.position]? = some step ∧
    p ∈ Compiler.requiredOf registry step.driver step.operation ∧
    Entries.get? step.parameters p = some (.string text) ∧
    Reference.ofText? text = some ref ∧ Outputs.lookup c.context ref = .ok .null

/-- No call among the events was answered that its operation is not found, and where parameters were
missing one was a reference that stands for null. -/
structure Accepted (registry : Registry) (w : Workflow) (log : List Event) : Prop where
  found : ∀ c k driver operation,
    .called c k (some (.failed (DryRun.Error.operationNotFound driver operation).message)) ∉ log
  given : ∀ c k operation names,
    .called c k (some (.failed (DryRun.Error.missingParams operation names).message)) ∈ log →
      ∃ p, NullReference registry w c p

/-- Behind an answered call stand its step and a dry-run driver that declares the operation. -/
theorem Stage.exists_operation {registry : Registry} {w : Workflow} (hw : w.Sound registry)
    {e : Engine} {now : Time.Instant} {left : List (Nat × Step)} {s : State}
    {log : List Event} (hs : Stage e w now left s log) {bench : Bench}
    (hbench : bench.Rehearses registry) (hserved : Served bench log) {c : StepCall} {k : Nat}
    {o : Outcome} (ho : .called c k (some o) ∈ log) :
    ∃ (step : Step) (op : Operation) (d : DryRun) (id : Id), w.steps[c.position]? = some step ∧
      Outputs.resolveMembers c.context step.parameters = .ok c.parameters ∧
      Compiler.requiredOf registry step.driver step.operation = op.required ∧
      d.info.operation? c.operation = some op ∧ o = (d.answer id c.operation c.parameters).1 := by
  obtain ⟨past, step, hi, hready, hprep⟩ := hs.exists_prepare ho
  obtain ⟨-, hdriver, hoperation, hcontext, hresolve, -⟩ := prepare_ok hready hprep
  obtain ⟨d, id, hinfo, hanswer⟩ := hserved.exists_answer hbench ho
  have hsupports := (hw.supported step (List.mem_of_getElem? hi)).2
  obtain ⟨op, hop, hrequired⟩ := Compiler.operation?_of_supports hsupports (hdriver ▸ hinfo)
  exact ⟨step, op, d, id, hi, hcontext ▸ hresolve, hrequired, hoperation ▸ hop, hanswer⟩

end Run

/-- A workflow that is compiled without complaints over dry-run drivers is accepted by them: by any
engine, one step at a time or in waves, and whatever the scripts of the drivers. -/
theorem Engine.execute_accepted {c : Compiler} {wid : Id} {created : Time.Instant} {b : Blueprint}
    {params : Params} (hvalid : (c.compile wid created b params).validation.isValid = true)
    {bench : Bench} (hdry : ∀ name d, Entries.get? bench name = some d → ∃ r, d = .dryRun r)
    (hregistry : c.registry = bench.registry) {e : Engine} {id : Id} {log : List Run.Event}
    {x : Except Workflow.Invalid RunResult}
    (h : Run.Ends e (e.execute (c.compile wid created b params) id) log x)
    (hserved : Run.Served bench log) :
    Run.Accepted c.registry (c.compile wid created b params) log := by
  have hw := Compiler.compile_sound hvalid
  have hbench : bench.Rehearses c.registry := hregistry ▸ Bench.rehearses_registry hdry
  obtain ⟨started, finished, left, s, rfl, hs, -⟩ := Run.Stage.of_ends hvalid h
  constructor
  case found =>
    intro call k driver operation hcall
    obtain ⟨step, op, d, id, -, -, -, hop, hanswer⟩ := hs.exists_operation hw hbench hserved hcall
    exact d.answer_ne_operationNotFound hop driver operation hanswer.symm
  case given =>
    intro call k operation names hcall
    obtain ⟨step, op, d, id, hi, hresolve, hrequired, hop, hanswer⟩ :=
      hs.exists_operation hw hbench hserved hcall
    obtain ⟨p, hp, hnull⟩ := DryRun.exists_missing hop hanswer.symm
    rw [← hrequired] at hp
    obtain ⟨text, ref, hget, href, hlookup⟩ := Compiler.null_of_missing
      (Compiler.compile_missingNames hvalid (List.mem_of_getElem? hi) hp) hresolve hnull
    exact ⟨p, step, text, ref, hi, hp, hget, href, hlookup⟩

/-- The drivers of the mailer as dry-run drivers; the mail that is fetched has no sender. -/
def Run.rehearsal : Bench :=
  [("mail", .dryRun {
    info := ⟨"mail", "", [⟨"fetch", "", [], []⟩, ⟨"send", "", ["to"], []⟩]⟩
    responses := [("fetch", .record [("sender", .null)])] })]

/-- A call was answered by a failure with this text. -/
def Run.Event.failsBy (text : String) : Run.Event → Bool
  | .called _ _ (some ⟨false, none, none, some t⟩) => t = text
  | _ => false

/-- The call without an addressee is turned down, and the addressee is a reference. -/
theorem Engine.execute_accepted_rehearsal :
    let w := Run.mailer.compile .zero ⟨0, 0⟩ Run.fetchThenSend []
    let e : Engine := ⟨Run.mailer.registry, { concurrent := true, maxRetries := 1 }⟩
    w.validation.isValid = true ∧ Run.mailer.registry = Run.rehearsal.registry ∧
      ∃ log x, Run.Ends e (e.execute w .zero) log x ∧ Run.Served Run.rehearsal log ∧
        ∃ c k p, .called c k (some (.failed (DryRun.Error.missingParams "send" ["to"]).message)) ∈
          log ∧ Run.NullReference Run.mailer.registry w c p := by
  intro w e
  have hvalid : w.validation.isValid = true := by decide +kernel
  have hdry (name : String) (d : Driver) (hd : Entries.get? Run.rehearsal name = some d) :
      ∃ r, d = .dryRun r := by
    have hmem := Entries.mem_of_get? hd
    rw [Run.rehearsal, List.mem_singleton, Prod.mk.injEq] at hmem
    exact ⟨_, hmem.2⟩
  obtain ⟨hc, hserved⟩ := Run.rehearsed e (e.execute w .zero) Run.rehearsal
  have haccepted := Engine.execute_accepted hvalid hdry rfl hc hserved
  have hfails : (Run.rehearse e (e.execute w .zero) Run.rehearsal).log.any
      (Run.Event.failsBy (DryRun.Error.missingParams "send" ["to"]).message) = true := by
    decide +kernel
  obtain ⟨ev, hev, htext⟩ := List.any_eq_true.mp hfails
  unfold Run.Event.failsBy at htext
  split at htext
  · next c k text =>
    obtain rfl : text = _ := by simpa using htext
    obtain ⟨p, hp⟩ := haccepted.given c k _ _ hev
    exact ⟨hvalid, rfl, _, _, hc, hserved, c, k, p, hev, hp⟩
  · cases htext

end Automation
