import Automation.Driver.Bench
import Automation.Proofs.Run.Course

/-!
# Runs on drivers that stand at a bench

The calls of a run are answered by drivers at a bench, each as its script and the earlier calls have
left it. Every bench serves some course of every run: the one on which the attempts are made one
after the other, with an answer to each call at once. It can be computed.
-/

namespace Automation.Run

open Json

variable {b : Bench} {e : Engine} {log rest : List Event} {α : Type}

/-- The drivers at the bench answer the calls among the events. At any time one of them may receive
a call; it answers as it stands when the answer is due, and also may come too late. -/
inductive Served : Bench → List Event → Prop where
  | quiet (b : Bench) : Served b []
  | received {b : Bench} {log : List Event} {name : String} {d : Driver} (operation : String)
      (parameters context : Members) : Entries.get? b name = some d →
      Served (Entries.insert b name (d.receive operation parameters context).2) log → Served b log
  | answered {b : Bench} {log : List Event} {c : StepCall} {k : Nat} {d : Driver} (id : Id) :
      Entries.get? b c.driver = some d →
      Served (Entries.insert b c.driver (d.answer id c.operation c.parameters).2) log →
      Served b (.called c k (some (d.answer id c.operation c.parameters).1) :: log)
  | late {b : Bench} {log : List Event} {c : StepCall} {k : Nat} :
      Served b log → Served b (.called c k none :: log)
  | recorded {b : Bench} {log : List Event} {c : StepCall} {v : Verdict} :
      Served b log → Served b (.recorded c v :: log)

private theorem Served.records (cs : List StepCall) (vs : List Verdict) (h : Served b rest) :
    Served b (records cs vs ++ rest) := by
  induction cs generalizing vs with
  | nil => exact h
  | cons c cs ih =>
    cases vs with
    | nil => exact h
    | cons v vs => exact .recorded (ih vs)

/-! ## The attempts one after the other -/

/-- What a run or a part of it comes to, with the bench after it and the events. -/
structure Rehearsed (α : Type) where
  value : α
  bench : Bench
  log : List Event

/-- The bench has served the events. -/
def Rehearsed.ServedFrom (r : Rehearsed α) (b : Bench) : Prop :=
  ∀ rest, Served r.bench rest → Served b (r.log ++ rest)

/-- The answer to a call, none if the driver is not at the bench, and the bench after it. -/
def answerAt (b : Bench) (c : StepCall) : Option Outcome × Bench :=
  match Entries.get? b c.driver with
  | none => (none, b)
  | some d => (some (d.answer .zero c.operation c.parameters).1,
      Entries.insert b c.driver (d.answer .zero c.operation c.parameters).2)

def rehearseAttempts : Attempting Verdict → Nat → Bench → Rehearsed Verdict
  | .done v, _, b => ⟨v, b, []⟩
  | .ask (.call c _) next, made, b =>
    let (a, b) := answerAt b c
    let r := rehearseAttempts (next a) (made + 1) b
    { r with log := .called c made a :: r.log }
  | .ask (.pause _) next, made, b => rehearseAttempts (next ()) made b

def rehearseBatch (e : Engine) : List StepCall → Bench → Rehearsed (List Verdict)
  | [], b => ⟨[], b, []⟩
  | c :: cs, b =>
    let r := rehearseAttempts (Attempt.run e.registry e.settings c) 0 b
    let rs := rehearseBatch e cs r.bench
    ⟨r.value :: rs.value, rs.bench, r.log ++ rs.log⟩

/-- A run that is told the same time always. -/
def rehearse (e : Engine) : Running α → Bench → Rehearsed α
  | .done a, b => ⟨a, b, []⟩
  | .ask .now next, b => rehearse e (next ⟨0, 0⟩) b
  | .ask (.dispatch cs) next, b =>
    let rs := rehearseBatch e cs b
    let r := rehearse e (next rs.value) rs.bench
    { r with log := rs.log ++ (records cs rs.value ++ r.log) }

/-! ## Drivers -/

private theorem served_answerAt (c : StepCall) (k : Nat) (h : Served (answerAt b c).2 rest) :
    Served b (.called c k (answerAt b c).1 :: rest) := by
  unfold answerAt at h ⊢
  split
  · next hnone =>
    rw [hnone] at h
    exact .late h
  · next d hd =>
    rw [hd] at h
    exact .answered .zero hd h

private theorem served_rehearseAttempts (p : Attempting Verdict) (made : Nat) (b : Bench) :
    (rehearseAttempts p made b).ServedFrom b := by
  induction p generalizing made b with
  | done v => exact fun _ h => h
  | ask r next ih =>
    intro rest h
    cases r with
    | call c secs => exact served_answerAt c made (ih _ _ _ rest h)
    | pause ms => exact ih () made b rest h

private theorem served_rehearseBatch (e : Engine) (cs : List StepCall) (b : Bench) :
    (rehearseBatch e cs b).ServedFrom b := by
  induction cs generalizing b with
  | nil => exact fun _ h => h
  | cons c cs ih =>
    intro rest h
    rw [rehearseBatch, List.append_assoc]
    exact served_rehearseAttempts _ 0 b _ (ih _ rest h)

private theorem served_rehearse (e : Engine) (p : Running α) (b : Bench) :
    (rehearse e p b).ServedFrom b := by
  induction p generalizing b with
  | done a => exact fun _ h => h
  | ask r next ih =>
    intro rest h
    cases r with
    | now => exact ih _ b rest h
    | dispatch cs =>
      rw [rehearse, List.append_assoc, List.append_assoc]
      exact served_rehearseBatch e cs b _ ((ih _ _ rest h).records cs _)

/-! ## Courses -/

private theorem Effort.moveOne_amid (before : List Effort) {f g : Effort} (m : Effort.Move f log g)
    (after : List Effort) : Effort.MoveOne (before ++ f :: after) log (before ++ g :: after) := by
  induction before with
  | nil => exact .here m
  | cons f' before ih => exact .there ih

private theorem course_rehearseAttempts (p : Attempting Verdict) (c : StepCall) (made : Nat)
    (b : Bench) (before after : List Effort) (next : List Verdict → Running α) : ∃ made',
      Course e (.attempting (before ++ ⟨c, made, p⟩ :: after) next)
        (rehearseAttempts p made b).log
        (.attempting (before ++ ⟨c, made', .done (rehearseAttempts p made b).value⟩ :: after)
          next) := by
  induction p generalizing made b with
  | done v => exact ⟨made, .stay _⟩
  | ask r next' ih =>
    cases r with
    | call c' secs =>
      obtain ⟨made', h⟩ := ih (answerAt b c').1 (made + 1) (answerAt b c').2
      exact ⟨made', .move (.attempted (Effort.moveOne_amid before (.called _) after)) h⟩
    | pause ms =>
      obtain ⟨made', h⟩ := ih () made b
      exact ⟨made', .move (.attempted (Effort.moveOne_amid before .paused after)) h⟩

private theorem course_rehearseBatch (e : Engine) (cs : List StepCall) (b : Bench)
    (before : List Effort) (next : List Verdict → Running α) : ∃ fs,
      fs.map Effort.call = cs ∧
      List.Forall₂ (fun f v => f.rest = .done v) fs (rehearseBatch e cs b).value ∧
      Course e (.attempting (before ++ cs.map (Effort.start e)) next) (rehearseBatch e cs b).log
        (.attempting (before ++ fs) next) := by
  induction cs generalizing b before with
  | nil => exact ⟨[], rfl, .nil, .stay _⟩
  | cons c cs ih =>
    obtain ⟨made, hfirst⟩ := course_rehearseAttempts (e := e)
      (Attempt.run e.registry e.settings c) c 0 b before (cs.map (Effort.start e)) next
    set r := rehearseAttempts (Attempt.run e.registry e.settings c) 0 b
    -- the attempts that are over stand before those that follow
    obtain ⟨fs, rfl, hv, hrest⟩ := ih r.bench (before ++ [⟨c, made, .done r.value⟩])
    rw [List.append_assoc, List.append_assoc] at hrest
    exact ⟨⟨c, made, .done r.value⟩ :: fs, rfl, .cons rfl hv, hfirst.trans hrest⟩

/-- The rehearsal is a course of the run. -/
theorem course_rehearse (e : Engine) (p : Running α) (b : Bench) :
    Ends e p (rehearse e p b).log (rehearse e p b).value := by
  induction p generalizing b with
  | done a => exact .stay _
  | ask r next ih =>
    cases r with
    | now => exact .move (.told ⟨0, 0⟩) (ih _ b)
    | dispatch cs =>
      obtain ⟨fs, hcalls, hv, hbatch⟩ := course_rehearseBatch e cs b [] next
      have hfinished := Course.move (Move.finished hv) (ih _ (rehearseBatch e cs b).bench)
      rw [hcalls] at hfinished
      have hbegun := Course.move Move.begun (hbatch.trans hfinished)
      exact hbegun

/-- Every bench serves a course of every run to its end. -/
theorem rehearsed (e : Engine) (p : Running α) (b : Bench) :
    Ends e p (rehearse e p b).log (rehearse e p b).value ∧ Served b (rehearse e p b).log := by
  refine ⟨course_rehearse e p b, ?_⟩
  have hserved := served_rehearse e p b [] (.quiet _)
  rwa [List.append_nil] at hserved

end Automation.Run
