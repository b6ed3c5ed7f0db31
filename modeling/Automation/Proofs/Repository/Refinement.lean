import Automation.Proofs.Repository.Rows
import Automation.Proofs.Repository.Triggers
import Automation.Proofs.Workflow.Document

/-!
# Tables that mirror memory

A repository in tables answers like one in memory, whatever is asked of the two: with equal values,
or both with the refusal that the request deserves. What is given to them to keep must survive being
written, and triggers must come in the order of their creation, for workflows that are there.
-/

namespace Automation

open Store Json

/-- The document of the workflow is read as the workflow. -/
def Workflow.Survives (w : Workflow) : Prop := Workflow.read w.render = .ok w

namespace Memory

/-- What may be asked. A workflow must survive being written. A new trigger must be storable, its
workflow must be there and the triggers before it must precede it. A time must be a whole number of
milliseconds. -/
def Admits (m : Memory) : RepositoryRequest → Prop
  | .saveWorkflow _ w => w.Survives
  | .createTrigger t => m.trigger? t.id = none →
    t.Storable ∧ (m.workflow? t.workflowId).isSome ∧ ∀ u ∈ m.triggers, u.Precedes t
  | .stampTrigger _ time => time.IsWhole
  | _ => True

/-- What must be refused, and with which kind of error: a second trigger with an id, and a change to
a trigger that is not there. -/
def Refuses (m : Memory) (r : RepositoryRequest) (e : RepositoryError) : Prop :=
  match r with
  | .createTrigger t => (m.trigger? t.id).isSome ∧ ∃ reason, e = .failed reason
  | .stampTrigger id _ | .setStatus id _ => m.trigger? id = none ∧ e = .triggerNotFound id
  | _ => False

/-- Two answers to a request are the same value, or both refuse what must be refused. -/
inductive Agree (m : Memory) (r : RepositoryRequest) : r.Answer → r.Answer → Prop where
  | value (a : r.Result) : (∀ e, ¬ m.Refuses r e) → Agree m r (.ok a) (.ok a)
  | refusal {e e' : RepositoryError} : m.Refuses r e → m.Refuses r e' →
      Agree m r (.error e) (.error e')

private theorem Agree.of_eq {m : Memory} {r : RepositoryRequest} {a b : r.Answer} (h : a = b)
    (hrefused : ∀ e, a = .error e ↔ m.Refuses r e) : m.Agree r a b := by
  subst h
  cases a with
  | ok a => exact .value a fun e he => nomatch (hrefused e).mpr he
  | error e =>
    have he := (hrefused e).mp rfl
    exact .refusal he he

private theorem workflow?_saveWorkflow (m : Memory) (agentId : String) (w : Workflow) (id : Id) :
    (m.saveWorkflow agentId w).workflow? id = if w.id = id then some w else m.workflow? id := by
  unfold saveWorkflow workflow?
  rw [List.find?_append, List.find?_filter]
  by_cases hid : w.id = id
  · subst hid
    rw [if_pos rfl, List.find?_eq_none.mpr (by simp)]
    simp
  · have hsame (o : OwnedWorkflow) :
        (o.workflow.id ≠ w.id ∧ o.workflow.id = id) ↔ o.workflow.id = id :=
      ⟨And.right, fun ho => ⟨fun heq => hid (heq.symm.trans ho), ho⟩⟩
    rw [if_neg hid]
    simp [hsame, hid]

end Memory

namespace Store.Database

variable {α β : Type} {db db' : Database}

private theorem withTable_eq (h : db.migrated = true) (table : String) (f : Except Store.Error α) :
    db.withTable table f = f := by
  rw [withTable, if_pos h]

private theorem change_ok {w : Write Unit} (e : Store.Error → RepositoryError)
    (h : w db = .ok ((), db')) : db.change e w = (.ok (), db') := by
  rw [change, h]

private theorem change_error {w : Write Unit} (e : Store.Error → RepositoryError)
    {err : Store.Error} (h : w db = .error err) : db.change e w = (.error (e err), db) := by
  rw [change, h]

private theorem look_ok {r : Read α} {a : α} (f : α → Except RepositoryError β) (h : r db = .ok a) :
    db.look r f = f a := by
  rw [look, h]

private theorem saveWorkflow_document (h : db.migrated = true) (row : WorkflowRow) (now : Int) :
    ∃ rows, saveWorkflow row now db = .ok ((), { db with workflows := rows }) ∧ ∀ id,
      (rows.find? (·.id = id)).map (·.document) =
        if row.id = id then some row.document
        else (db.workflows.find? (·.id = id)).map (·.document) := by
  unfold saveWorkflow
  rw [withTable_eq h]
  cases hfind : db.workflows.find? (·.id = row.id) with
  | none =>
    refine ⟨_, rfl, fun id => ?_⟩
    rw [List.find?_append]
    by_cases hid : row.id = id
    · subst hid
      simp [hfind]
    · simp [hid]
  | some old =>
    -- the first row with the id is written anew, and rows keep their ids
    refine ⟨_, rfl, fun id => ?_⟩
    let replaced : WorkflowRow := { row with createdAt := old.createdAt, updatedAt := now }
    have hkey : (fun w : WorkflowRow => decide (w.id = id)) ∘
        (fun w => if w.id = replaced.id then replaced else w) = fun w => decide (w.id = id) := by
      funext w
      by_cases hw : w.id = replaced.id <;> simp [hw]
    rw [List.find?_map, hkey]
    by_cases hid : row.id = id
    · subst hid
      have hold : old.id = row.id := by simpa using List.find?_some hfind
      rw [if_pos rfl, hfind, Option.map_some, if_pos hold]
      rfl
    · rw [if_neg hid]
      cases hother : db.workflows.find? (·.id = id) with
      | none => rfl
      | some other =>
        have hkept : other.id = id := by simpa using List.find?_some hother
        have hne : other.id ≠ replaced.id := fun heq => hid (heq.symm.trans hkept)
        rw [Option.map_some, if_neg hne]

end Store.Database

/-- The tables hold what memory holds: the triggers as their rows, and the documents of the
workflows. All of it can be read again, and the triggers are in the order of their creation. -/
structure Mirrors (m : Memory) (db : Database) : Prop where
  migrated : db.migrated = true
  triggers : db.triggers = m.triggers.map Trigger.toRow
  workflows : ∀ id : Id, (db.workflows.find? (·.id = id.text)).map (·.document) =
    (m.workflow? id).map Workflow.render
  survives : ∀ id w, m.workflow? id = some w → w.Survives
  storable : ∀ t ∈ m.triggers, t.Storable
  distinct : m.Distinct
  ordered : m.triggers.Pairwise Trigger.Precedes

namespace Mirrors

variable {m : Memory} {db : Database} {now : Int}

private theorem text_iff {a b : Id} : a.text = b.text ↔ a = b :=
  ⟨fun h => congrArg Id.mk h, fun h => h ▸ rfl⟩

private theorem empty : Mirrors {} .empty where
  migrated := rfl
  triggers := rfl
  workflows _ := rfl
  survives _ _ h := by cases h
  storable _ h := by cases h
  distinct := List.nodup_nil
  ordered := .nil

private theorem any_triggers (h : Mirrors m db) (id : Id) :
    db.triggers.any (·.id = id.text) = (m.trigger? id).isSome := by
  rw [h.triggers, List.any_map, ← m.any_triggers]
  exact congrArg m.triggers.any (funext fun t => decide_eq_decide.mpr text_iff)

private theorem find?_triggers (h : Mirrors m db) (id : Id) :
    db.triggers.find? (·.id = id.text) = (m.trigger? id).map Trigger.toRow := by
  have hkey : (fun row : TriggerRow => decide (row.id = id.text)) ∘ Trigger.toRow =
      fun t => decide (t.id = id) := funext fun t => decide_eq_decide.mpr text_iff
  rw [h.triggers, List.find?_map, hkey, Memory.trigger?]

private theorem any_workflows (h : Mirrors m db) (id : Id) :
    db.workflows.any (·.id = id.text) = (m.workflow? id).isSome := by
  rw [Bool.eq_iff_iff, List.any_eq_true, ← List.find?_isSome]
  have hdocument := congrArg Option.isSome (h.workflows id)
  rw [Option.isSome_map, Option.isSome_map] at hdocument
  rw [hdocument]

/-! ## Workflows -/

private theorem saveWorkflow (h : Mirrors m db) (agentId : String) {w : Workflow}
    (hw : w.Survives) : m.Agree (.saveWorkflow agentId w) (m.answer (.saveWorkflow agentId w)).1
        (db.answer now (.saveWorkflow agentId w)).1 ∧
      Mirrors (m.answer (.saveWorkflow agentId w)).2
        (db.answer now (.saveWorkflow agentId w)).2 := by
  obtain ⟨rows, hsave, hrows⟩ := Database.saveWorkflow_document h.migrated (w.toRow agentId) now
  have hanswer : db.answer now (.saveWorkflow agentId w) =
      (.ok (), { db with workflows := rows }) :=
    Database.change_ok _ hsave
  rw [hanswer]
  refine ⟨.value _ fun _ he => he, ?_⟩
  exact {
    migrated := h.migrated
    triggers := h.triggers
    workflows := fun id => by
      change (rows.find? _).map _ = ((m.saveWorkflow agentId w).workflow? id).map _
      rw [hrows, h.workflows, Memory.workflow?_saveWorkflow]
      by_cases hid : w.id = id
      · have htext : (w.toRow agentId).id = id.text := congrArg Id.text hid
        rw [if_pos htext, if_pos hid]
        rfl
      · have htext : ¬ (w.toRow agentId).id = id.text := fun heq => hid (text_iff.mp heq)
        rw [if_neg htext, if_neg hid]
    survives := fun id u hu => by
      change (m.saveWorkflow agentId w).workflow? id = some u at hu
      rw [Memory.workflow?_saveWorkflow] at hu
      split at hu
      · cases hu
        exact hw
      · exact h.survives id u hu
    storable := h.storable
    distinct := h.distinct
    ordered := h.ordered }

private theorem getWorkflow (h : Mirrors m db) (id : Id) :
    db.answer now (.getWorkflow id) = (.ok (m.workflow? id), db) := by
  have hread : Database.workflow? id.text db = .ok (db.workflows.find? (·.id = id.text)) :=
    Database.withTable_eq h.migrated _ _
  rw [Database.answer, Database.look_ok _ hread]
  have hdocument := h.workflows id
  cases hfound : m.workflow? id with
  | none =>
    rw [hfound] at hdocument
    rw [Option.map_eq_none_iff.mp hdocument]
  | some w =>
    rw [hfound] at hdocument
    obtain ⟨row, hrow, hsame⟩ := Option.map_eq_some_iff.mp hdocument
    have hw : Workflow.read row.document = .ok w := hsame ▸ h.survives id w hfound
    rw [hrow]
    simp only [hw]

/-! ## Triggers -/

private theorem getTrigger (h : Mirrors m db) (id : Id) :
    db.answer now (.getTrigger id) = (.ok (m.trigger? id), db) := by
  have hread : Database.trigger? id.text db =
      .ok ((m.trigger? id).map fun t => (t.toRow, t.config)) := by
    unfold Database.trigger?
    rw [Database.withTable_eq h.migrated, h.find?_triggers]
    cases hfound : m.trigger? id with
    | none => rfl
    | some t =>
      have ht := h.storable t (List.mem_of_find?_eq_some hfound)
      rw [Option.map_some]
      simp only [ht.readConfig]
      rfl
  rw [Database.answer, Database.look_ok _ hread]
  cases hfound : m.trigger? id with
  | none => rfl
  | some t =>
    have ht := h.storable t (List.mem_of_find?_eq_some hfound)
    simp only [Option.map_some, ht.ofRow_toRow]
    rfl

private theorem triggersWhere (h : Mirrors m db) {p : TriggerRow → Bool} {q : Trigger → Bool}
    (hpq : ∀ t, p (Trigger.toRow t) = q t) :
    db.look (Database.triggersWhere p) (fun rows => .ok (Trigger.ofRows rows)) =
      .ok (m.triggers.filter q) := by
  have hstorable : ∀ t ∈ m.triggers.filter q, t.Storable := fun t ht =>
    h.storable t (List.mem_filter.mp ht).1
  have hrows : db.triggers.filter p = (m.triggers.filter q).map Trigger.toRow := by
    rw [h.triggers, List.filter_map]
    exact congrArg (List.map Trigger.toRow) (congrArg (List.filter · m.triggers) (funext hpq))
  obtain ⟨rows, hread, hback⟩ := ofRows_rows hstorable
  have hlist : Database.triggersWhere p db = .ok rows := by
    unfold Database.triggersWhere
    rw [Database.withTable_eq h.migrated, hrows,
      byCreation_rows hstorable (h.ordered.sublist List.filter_sublist), hread]
  rw [Database.look_ok _ hlist, hback]

private theorem saveRun (h : Mirrors m db) (now : Int) (r : RunResult) :
    ∃ logs, db.answer now (.saveRun r) = (.ok (), { db with logs }) :=
  ⟨_, Database.change_ok _ (Database.withTable_eq h.migrated _ _)⟩

private theorem checkTrigger (h : Mirrors m db) (t : Trigger) :
    db.checkTrigger t.toRow =
      if (m.trigger? t.id).isSome then .error (.notUnique "triggers.id")
      else if (m.workflow? t.workflowId).isSome then .ok () else .error .noParent := by
  have htype : Database.triggerTypes.contains t.toRow.type = true :=
    List.contains_iff_mem.mpr t.type.text_mem
  have hstatus : Database.checkStatus t.toRow.status = .ok () := t.status.checkStatus_text
  have hid : db.triggers.any (·.id = t.toRow.id) = (m.trigger? t.id).isSome := h.any_triggers t.id
  have hparent : db.workflows.any (·.id = t.toRow.workflowId) = (m.workflow? t.workflowId).isSome :=
    h.any_workflows t.workflowId
  rw [Database.checkTrigger, htype, hstatus, hid, hparent]
  cases (m.trigger? t.id).isSome <;> cases (m.workflow? t.workflowId).isSome <;> rfl

private theorem createTrigger (h : Mirrors m db) {t : Trigger} (ht : m.Admits (.createTrigger t)) :
    m.Agree (.createTrigger t) (m.answer (.createTrigger t)).1
        (db.answer now (.createTrigger t)).1 ∧
      Mirrors (m.answer (.createTrigger t)).2 (db.answer now (.createTrigger t)).2 := by
  have hcheck := h.checkTrigger t
  have hmemory := m.createTrigger_eq t
  by_cases htaken : (m.trigger? t.id).isSome
  · -- both refuse a second trigger with the id
    rw [if_pos htaken] at hcheck hmemory
    have hcreate : Database.createTrigger t.toRow db = .error (.notUnique "triggers.id") := by
      rw [Database.createTrigger, Database.withTable_eq h.migrated, hcheck]
      rfl
    have hanswer : db.answer now (.createTrigger t) = _ := Database.change_error .ofStore hcreate
    have hmanswer : m.answer (.createTrigger t) = _ := congrArg m.written hmemory
    rw [hanswer, hmanswer]
    exact ⟨.refusal ⟨htaken, _, rfl⟩ ⟨htaken, _, rfl⟩, h⟩
  · -- the row goes behind the others, as the trigger does
    rw [if_neg htaken] at hcheck hmemory
    obtain ⟨hstorable, hworkflow, hlast⟩ := ht (by simpa using htaken)
    rw [if_pos hworkflow] at hcheck
    have hcreate : Database.createTrigger t.toRow db =
        .ok ((), { db with triggers := db.triggers ++ [t.toRow] }) := by
      rw [Database.createTrigger, Database.withTable_eq h.migrated, hcheck]
      rfl
    have hanswer : db.answer now (.createTrigger t) = _ := Database.change_ok .ofStore hcreate
    have hmanswer : m.answer (.createTrigger t) = _ := congrArg m.written hmemory
    have hdistinct := Memory.created_distinct h.distinct t
    rw [hmemory] at hdistinct
    rw [hanswer, hmanswer]
    refine ⟨.value _ fun e he => htaken he.1, ?_⟩
    exact {
      migrated := h.migrated
      triggers := by
        change db.triggers ++ [t.toRow] = (m.triggers ++ [t]).map Trigger.toRow
        rw [h.triggers, List.map_append]
        rfl
      workflows := h.workflows
      survives := h.survives
      storable := fun u hu => by
        rcases List.mem_append.mp hu with hu | hu
        · exact h.storable u hu
        · exact List.mem_singleton.mp hu ▸ hstorable
      distinct := hdistinct
      ordered := List.pairwise_append.mpr ⟨h.ordered, List.pairwise_singleton _ _,
        fun u hu v hv => List.mem_singleton.mp hv ▸ hlast u hu⟩ }

private theorem update (h : Mirrors m db) (id : Id) {f : Trigger → Trigger}
    {g : TriggerRow → TriggerRow} {check : Except Store.Error Unit} (hcheck : check = .ok ())
    (hrow : ∀ t, (f t).toRow = g t.toRow) (hstorable : ∀ t, t.Storable → (f t).Storable)
    (hid : ∀ t, (f t).id = t.id) (hcreated : ∀ t, (f t).createdAt = t.createdAt) :
    let inMemory := m.written (m.updateTrigger id f)
    let inTables := db.change (.ofUpdate id) (Database.updateTrigger id.text check g)
    inMemory.1 = inTables.1 ∧
      (∀ e, inMemory.1 = .error e ↔ m.trigger? id = none ∧ e = .triggerNotFound id) ∧
      Mirrors inMemory.2 inTables.2 := by
  have hdistinct := Memory.updated_distinct h.distinct id hid
  have hmemory := m.updateTrigger_eq id f
  dsimp only
  cases hthere : (m.trigger? id).isSome with
  | false =>
    have hdb : Database.updateTrigger id.text check g db =
        .error (.notFound "trigger" id.text) := by
      rw [Database.updateTrigger, Database.withTable_eq h.migrated, h.any_triggers, hthere]
      rfl
    have hnone : m.trigger? id = none := by simpa using hthere
    rw [hmemory, hthere, Database.change_error _ hdb]
    refine ⟨rfl, fun e => ?_, h⟩
    exact ⟨fun he => ⟨hnone, (Except.error.inj he).symm⟩, fun he => congrArg Except.error he.2.symm⟩
  | true =>
    have hdb : Database.updateTrigger id.text check g db = .ok ((), { db with
        triggers := db.triggers.map fun row => if row.id = id.text then g row else row }) := by
      rw [Database.updateTrigger, Database.withTable_eq h.migrated, h.any_triggers, hthere, hcheck]
      rfl
    rw [hmemory, hthere] at hdistinct
    rw [hmemory, hthere, Database.change_ok _ hdb]
    refine ⟨rfl, fun e => ⟨nofun, fun he => by simp [he.1] at hthere⟩, ?_⟩
    exact {
      migrated := h.migrated
      triggers := by
        change db.triggers.map _ = (m.triggers.map _).map Trigger.toRow
        rw [h.triggers, List.map_map, List.map_map]
        refine List.map_congr_left fun t _ => ?_
        by_cases ht : t.id = id
        · have htext : t.toRow.id = id.text := congrArg Id.text ht
          simp only [Function.comp_apply, if_pos ht, if_pos htext, hrow]
        · have htext : ¬ t.toRow.id = id.text := fun heq => ht (text_iff.mp heq)
          simp only [Function.comp_apply, if_neg ht, if_neg htext]
      workflows := h.workflows
      survives := h.survives
      storable := fun u hu => by
        obtain ⟨t, ht, rfl⟩ := List.mem_map.mp hu
        split
        · exact hstorable t (h.storable t ht)
        · exact h.storable t ht
      distinct := hdistinct
      ordered := by
        -- the order depends on what no change touches
        refine List.pairwise_map.mpr (h.ordered.imp fun {t u} htu => ?_)
        have hkept (t : Trigger) : (if t.id = id then f t else t).id = t.id ∧
            (if t.id = id then f t else t).createdAt = t.createdAt := by
          split
          · exact ⟨hid t, hcreated t⟩
          · exact ⟨rfl, rfl⟩
        simpa only [Trigger.Precedes, hkept] using htu }

private theorem stampTrigger (h : Mirrors m db) (id : Id) {time : Time.Instant}
    (ht : time.IsWhole) : m.Agree (.stampTrigger id time) (m.answer (.stampTrigger id time)).1
        (db.answer now (.stampTrigger id time)).1 ∧
      Mirrors (m.answer (.stampTrigger id time)).2 (db.answer now (.stampTrigger id time)).2 := by
  obtain ⟨hsame, hrefused, hmirrors⟩ := h.update id
    (f := fun t => { t with lastTriggered := some time })
    (g := fun row => { row with lastTriggered := some time.toMillis }) rfl (fun _ => rfl)
    (fun t hs => { hs with lastTriggered := fun u hu => Option.some.inj hu ▸ ht })
    (fun _ => rfl) (fun _ => rfl)
  exact ⟨.of_eq hsame hrefused, hmirrors⟩

private theorem setStatus (h : Mirrors m db) (id : Id) (status : TriggerStatus) :
    m.Agree (.setStatus id status) (m.answer (.setStatus id status)).1
        (db.answer now (.setStatus id status)).1 ∧
      Mirrors (m.answer (.setStatus id status)).2 (db.answer now (.setStatus id status)).2 := by
  obtain ⟨hsame, hrefused, hmirrors⟩ := h.update id (f := fun t => { t with status })
    (g := fun row => { row with status := status.text }) status.checkStatus_text (fun _ => rfl)
    (fun t hs => { hs with }) (fun _ => rfl) (fun _ => rfl)
  exact ⟨.of_eq hsame hrefused, hmirrors⟩

private theorem answer (h : Mirrors m db) {r : RepositoryRequest} (hr : m.Admits r) :
    m.Agree r (m.answer r).1 (db.answer now r).1 ∧ Mirrors (m.answer r).2 (db.answer now r).2 := by
  cases r with
  | saveWorkflow agentId w => exact h.saveWorkflow agentId hr
  | getWorkflow id =>
    rw [h.getWorkflow]
    exact ⟨.value _ fun _ he => he, h⟩
  | saveRun r =>
    obtain ⟨logs, hanswer⟩ := h.saveRun now r
    rw [hanswer]
    exact ⟨.value _ fun _ he => he, { h with }⟩
  | createTrigger t => exact h.createTrigger hr
  | getTrigger id =>
    rw [h.getTrigger]
    exact ⟨.value _ fun _ he => he, h⟩
  | activeTriggers =>
    have hanswer : db.answer now .activeTriggers = (.ok (m.triggers.filter (·.isActive)), db) :=
      congrArg (·, db) (h.triggersWhere fun t => t.status.text_eq_active)
    rw [hanswer]
    exact ⟨.value _ fun _ he => he, h⟩
  | triggersOf agentId =>
    have hanswer : db.answer now (.triggersOf agentId) =
        (.ok (m.triggers.filter (·.agentId = agentId)), db) :=
      congrArg (·, db) (h.triggersWhere fun t => rfl)
    rw [hanswer]
    exact ⟨.value _ fun _ he => he, h⟩
  | stampTrigger id time => exact h.stampTrigger id hr
  | setStatus id status => exact h.setStatus id status

end Mirrors

/-! ## Sequences of requests -/

namespace Memory

/-- The memory after some requests. -/
def after (m : Memory) (calls : List (Int × RepositoryRequest)) : Memory :=
  calls.foldl (fun m call => (m.answer call.2).2) m

/-- Each request is admitted when its turn comes. -/
def AdmitsAll (m : Memory) : List (Int × RepositoryRequest) → Prop
  | [] => True
  | (_, r) :: calls => m.Admits r ∧ AdmitsAll (m.answer r).2 calls

end Memory

/-- The database after some requests, each asked at a time in milliseconds. -/
def Store.Database.after (db : Database) (calls : List (Int × RepositoryRequest)) : Database :=
  calls.foldl (fun db call => (db.answer call.1 call.2).2) db

namespace Memory

variable {m : Memory} {calls : List (Int × RepositoryRequest)}

private theorem admitsAll_append {later : List (Int × RepositoryRequest)} :
    m.AdmitsAll (calls ++ later) ↔ m.AdmitsAll calls ∧ (m.after calls).AdmitsAll later := by
  induction calls generalizing m with
  | nil => exact (true_and _).symm.to_iff
  | cons call calls ih => exact (and_congr_right fun _ => ih).trans and_assoc.symm

end Memory

private theorem Mirrors.after {m : Memory} {db : Database} {calls : List (Int × RepositoryRequest)}
    (h : Mirrors m db) (hcalls : m.AdmitsAll calls) : Mirrors (m.after calls) (db.after calls) := by
  induction calls generalizing m db with
  | nil => exact h
  | cons call calls ih => exact ih (h.answer hcalls.1).2 hcalls.2

/-- Whatever is asked of empty tables and of an empty memory, the tables answer each request like
the memory, and hold in the end what it holds. -/
theorem tables_answer_like_memory {calls : List (Int × RepositoryRequest)}
    (h : ({} : Memory).AdmitsAll calls) :
    (∀ before now r later, calls = before ++ (now, r) :: later →
      (({} : Memory).after before).Agree r ((({} : Memory).after before).answer r).1
        ((Database.empty.after before).answer now r).1) ∧
    Mirrors (({} : Memory).after calls) (Database.empty.after calls) := by
  refine ⟨?_, Mirrors.empty.after h⟩
  rintro before now r later rfl
  obtain ⟨hbefore, hr, -⟩ := Memory.admitsAll_append.mp h
  exact ((Mirrors.empty.after hbefore).answer hr).1

namespace Diary

/-- A workflow without steps. -/
def idle : Workflow :=
  ⟨schemaVersion, .generated 1, "idle", none, [], [], .failFast, [], { isValid := true }, ⟨0, 0⟩⟩

private theorem idle_survives : idle.Survives := by
  have hstorable : idle.Storable := {
    id := by decide +kernel
    createdAt := by decide +kernel
    dependencies := .nil
    parameters := .nil
    steps := nofun }
  exact Workflow.read_render hstorable rfl

/-- A trigger of the workflow for every minute, with the `n`-th id, made after `n` milliseconds. -/
def minutely (n : Nat) : Trigger where
  id := .generated n
  agentId := "ada"
  workflowId := idle.id
  type := .timeBased
  config := .record [("interval", .nat 60)]
  createdAt := .ofMillis n

private theorem read?_config (n : Nat) :
    Value.read? (minutely n).config.render = some (minutely n).config := by
  let config : Value := .object [("interval", .nat 60)]
  have hlegible : config.Legible := ⟨Value.legible_nat (by decide), trivial⟩
  have hregular : config.Regular maxDepth :=
    ⟨by decide, List.pairwise_singleton _ _, trivial, trivial⟩
  change Value.read? config.render = some config
  rw [Value.read?, Source.read?_render hlegible]
  exact config.value?_source hregular

private theorem minutely_storable {n : Nat}
    (hid : Id.ofText? (Id.generated n).text = some (Id.generated n))
    (hcreated : (Time.Instant.ofMillis n).IsWhole) : (minutely n).Storable where
  id := ⟨_, hid⟩
  workflowId := ⟨idle.id.text, show Id.ofText? _ = some idle.id by decide +kernel⟩
  config := read?_config n
  createdAt := hcreated
  lastTriggered := nofun

/-- Two triggers, one of them made twice, fired, paused and listed, an unknown one paused, and their
workflow replaced. -/
def calls : List (Int × RepositoryRequest) :=
  [(0, .saveWorkflow "ada" idle), (1, .createTrigger (minutely 2)),
    (2, .createTrigger (minutely 3)), (3, .createTrigger (minutely 2)),
    (4, .stampTrigger (.generated 2) (.ofMillis 60000)), (5, .setStatus (.generated 3) .paused),
    (6, .setStatus (.generated 4) .paused), (7, .saveWorkflow "bob" idle), (8, .activeTriggers),
    (9, .getWorkflow (.generated 1))]

private theorem calls_admitted : ({} : Memory).AdmitsAll calls := by
  refine ⟨idle_survives, fun _ => ⟨?_, ?_, nofun⟩, fun _ => ⟨?_, ?_, ?_⟩, fun h => ?_, ?_, trivial,
    trivial, idle_survives, trivial, trivial, trivial⟩
  · exact minutely_storable (by decide +kernel) ⟨2, by decide +kernel⟩
  · decide +kernel
  · exact minutely_storable (by decide +kernel) ⟨3, by decide +kernel⟩
  · decide +kernel
  · intro u hu
    obtain rfl : u = minutely 2 := List.mem_singleton.mp hu
    exact .inl (by decide +kernel)
  · exact absurd h (by decide +kernel)
  · exact ⟨60000, by decide +kernel⟩

/-- The tables list the trigger that was fired and not paused, as memory does. -/
theorem calls_answered_alike : ({} : Memory).AdmitsAll calls ∧
    (({} : Memory).after (calls.take 8)).Agree .activeTriggers
      ((({} : Memory).after (calls.take 8)).answer .activeTriggers).1
      ((Database.empty.after (calls.take 8)).answer 8 .activeTriggers).1 ∧
    Mirrors (({} : Memory).after calls) (Database.empty.after calls) :=
  have halike := tables_answer_like_memory calls_admitted
  ⟨calls_admitted, halike.1 (calls.take 8) 8 .activeTriggers (calls.drop 9) rfl, halike.2⟩

end Diary

end Automation
