import Automation.Json.Access
import Automation.Proofs.Json.Decoding
import Automation.Proofs.Json.Numbers
import Automation.Workflow.Compile

/-!
# Documents of workflows

A workflow is read from its document as it was, if its id and its time are read from their texts and
its parameters are sorted, not nested too deep and without numbers that are read as others.
Compilation keeps all that, so a compiled workflow that was stored is validated as before.
-/

namespace Automation

open Json

/-! ## Parts of documents -/

private theorem Report.decode_toJson (r : Report) (depth : Nat) :
    Report.decode (depth + 2) r.toJson.source = some r := by
  rw [Report.decode, Report.toJson, Decoder.record_written _ (by simp)]
  simp [Record.required_written, Entries.get?_cons]

private theorem Report.legible_toJson (r : Report) : r.toJson.Legible := by
  refine Value.legible_record ?_
  simp

private theorem ErrorPolicy.decode_text (p : ErrorPolicy) (depth : Nat) :
    ErrorPolicy.decode depth (Value.string p.text).source = some p := by
  cases p <;> simp [ErrorPolicy.decode, Decoder.word, Value.source, ErrorPolicy.text,
    List.lookup_cons]

/-- The parameters of a step that a document can hold, at the depth at which they stand there. -/
structure Json.Members.Storable (m : Members) : Prop where
  sorted : Entries.Sorted m
  legible : ∀ p ∈ m, p.2.Legible
  regular : ∀ p ∈ m, p.2.Regular (maxDepth - 4)

private theorem Step.decode_toJson {s : Step} (h : s.parameters.Storable) :
    Step.decode (maxDepth - 2) s.toJson.source = some s := by
  have hparameters : Decoder.entries Decoder.value (maxDepth - 3)
      (Value.object s.parameters).source = some s.parameters :=
    Decoder.entries_values h.sorted h.regular
  have hdependsOn : Decoder.list Decoder.string (maxDepth - 3) (Value.strings s.dependsOn).source =
      some s.dependsOn := Decoder.list_strings _
  change Step.decode ((maxDepth - 3) + 1) s.toJson.source = some s
  rw [Step.decode, Step.toJson, Decoder.record_written _ (by simp)]
  simp [Record.required_written, Record.orElse_written, Entries.get?_cons, hparameters, hdependsOn]

private theorem Step.legible_toJson {s : Step} (h : s.parameters.Storable) : s.toJson.Legible := by
  have hparameters : (Value.object s.parameters).Legible := Value.legibleMembers_iff.mpr h.legible
  refine Value.legible_record ?_
  simp [hparameters]

namespace Workflow

/-- A workflow that a document can hold. -/
structure Storable (w : Workflow) : Prop where
  id : Id.ofText? w.id.text = some w.id
  createdAt : Time.Instant.ofText? w.createdAt.render = some w.createdAt
  dependencies : Entries.Sorted w.dependencies
  parameters : Entries.Sorted w.parameters
  steps : ∀ s ∈ w.steps, s.parameters.Storable

/-- The document with another value for the schema version. -/
def documentWith (w : Workflow) (version : Value) : Value :=
  .record [("schema_version", version), ("workflow_id", .string w.id.text),
    ("name", .string w.name), ("template_id", .text? w.templateId),
    ("steps", .array (w.steps.map Step.toJson)),
    ("dependencies", .object (w.dependencies.mapValues .strings)),
    ("error_policy", .string w.errorPolicy.text), ("parameters", .stringMap w.parameters),
    ("validation", w.validation.toJson), ("created_at", .string w.createdAt.render)]

private theorem decode_documentWith {w : Workflow} (h : w.Storable) (version : Value) :
    decode maxDepth (w.documentWith version).source =
      (Decoder.natBits 32 (maxDepth - 1) version.source).map fun n =>
        { w with schemaVersion := n } := by
  have hid : Id.decode (maxDepth - 1) (Value.string w.id.text).source = some w.id := by
    simpa [Id.decode, Decoder.filterMap] using h.id
  have hcreatedAt : Time.Instant.decode (maxDepth - 1) (Value.string w.createdAt.render).source =
      some w.createdAt := by
    simpa [Time.Instant.decode, Decoder.filterMap] using h.createdAt
  have hsteps : Decoder.list Step.decode (maxDepth - 1)
      (Value.array (w.steps.map Step.toJson)).source = some w.steps :=
    Decoder.list_array fun s hs => Step.decode_toJson (h.steps s hs)
  have hdependencies : Decoder.entries (Decoder.list Decoder.string) (maxDepth - 1)
      (Value.object (w.dependencies.mapValues .strings)).source = some w.dependencies :=
    Decoder.entries_object h.dependencies fun p _ => Decoder.list_strings p.2
  have hparameters : Decoder.entries Decoder.string (maxDepth - 1)
      (Value.stringMap w.parameters).source = some w.parameters :=
    Decoder.entries_object h.parameters fun p _ => Decoder.string_source p.2
  have hvalidation : Report.decode (maxDepth - 1) w.validation.toJson.source = some w.validation :=
    Report.decode_toJson w.validation (maxDepth - 3)
  change decode ((maxDepth - 1) + 1) _ = _
  rw [decode, documentWith, Decoder.record_written _ (by simp)]
  cases hversion : Decoder.natBits 32 (maxDepth - 1) version.source <;>
    simp [Record.required_written, Record.optional_written, Entries.get?_cons, hid, hcreatedAt,
      hsteps, hdependencies, hparameters, hvalidation, ErrorPolicy.decode_text, hversion]

private theorem put_toJson (w : Workflow) (version : Value) :
    w.toJson.put "schema_version" version = w.documentWith version := by
  refine congrArg Value.object ?_
  refine Entries.ext_get? (Entries.sorted_insert (Entries.sorted_ofList _) _ _)
    (Entries.sorted_ofList _) fun key => ?_
  rw [Entries.get?_insert, Entries.get?_ofList, Entries.get?_ofList]
  by_cases hkey : "schema_version" = key
  · subst hkey
    simp [Entries.get?_cons]
  · simp [Entries.get?_cons, hkey]

private theorem legible_documentWith {w : Workflow} (h : w.Storable) {version : Value}
    (hversion : version.Legible) : (w.documentWith version).Legible := by
  have hsteps : (Value.array (w.steps.map Step.toJson)).Legible :=
    Value.legible_array fun s hs => Step.legible_toJson (h.steps s hs)
  have hdependencies : (Value.object (w.dependencies.mapValues .strings)).Legible :=
    Value.legible_entries fun p _ => Value.legible_strings p.2
  have hparameters : (Value.stringMap w.parameters).Legible :=
    Value.legible_entries fun p _ => Value.legible_string p.2
  refine Value.legible_record ?_
  simp [hversion, hsteps, hdependencies, hparameters, Report.legible_toJson]

private theorem read_put {w : Workflow} (h : w.Storable) {version : Value}
    (hversion : version.Legible) : read (w.toJson.put "schema_version" version).render =
      (Decoder.natBits 32 (maxDepth - 1) version.source).elim (.error .malformed) fun n =>
        checkVersion { w with schemaVersion := n } := by
  rw [put_toJson, read, Decoder.ofText?, Source.read?_render (legible_documentWith h hversion)]
  simp only [Option.bind_eq_bind, Option.bind_some, decode_documentWith h]
  cases Decoder.natBits 32 (maxDepth - 1) version.source <;> rfl

end Workflow

/-! ## Binding -/

namespace Placeholder

mutual

theorem bind_legible (params : Params) (v : Value) (h : v.Legible) :
    (bind params v).1.Legible := by
  cases v with
  | null | bool | string => trivial
  | number n => exact h
  | array items => exact bindItems_legible params items h
  | object members => exact bindMembers_legible params members h

theorem bindItems_legible (params : Params) (items : List Value) (h : Value.LegibleItems items) :
    Value.LegibleItems (bindItems params items).1 := by
  match items with
  | [] => trivial
  | v :: rest => exact ⟨bind_legible params v h.1, bindItems_legible params rest h.2⟩

theorem bindMembers_legible (params : Params) (members : List (String × Value))
    (h : Value.LegibleMembers members) : Value.LegibleMembers (bindMembers params members).1 := by
  match members with
  | [] => trivial
  | (k, v) :: rest => exact ⟨bind_legible params v h.1, bindMembers_legible params rest h.2⟩

end

private theorem keys_bindMembers (params : Params) (members : Members) :
    (bindMembers params members).1.map (·.1) = members.map (·.1) := by
  induction members with
  | nil => rfl
  | cons p rest ih => exact congrArg (p.1 :: ·) ih

mutual

theorem bind_regular (params : Params) {depth : Nat} (v : Value) (h : v.Regular depth) :
    (bind params v).1.Regular depth := by
  cases v with
  | null | bool | number | string => trivial
  | array items => exact ⟨h.1, bindItems_regular params items h.2⟩
  | object members =>
    have hsorted : Entries.Sorted (bindMembers params members).1 := by
      rw [Entries.Sorted, ← List.pairwise_map, keys_bindMembers, List.pairwise_map]
      exact h.2.1
    exact ⟨h.1, hsorted, bindMembers_regular params members h.2.2⟩

theorem bindItems_regular (params : Params) {depth : Nat} (items : List Value)
    (h : Value.RegularItems depth items) : Value.RegularItems depth (bindItems params items).1 := by
  match items with
  | [] => trivial
  | v :: rest => exact ⟨bind_regular params v h.1, bindItems_regular params rest h.2⟩

theorem bindMembers_regular (params : Params) {depth : Nat} (members : List (String × Value))
    (h : Value.RegularMembers depth members) :
    Value.RegularMembers depth (bindMembers params members).1 := by
  match members with
  | [] => trivial
  | (k, v) :: rest => exact ⟨bind_regular params v h.1, bindMembers_regular params rest h.2⟩

end

end Placeholder

namespace Compiler

private theorem storable_insert {m : Members} (h : m.Storable) (key s : String) :
    Json.Members.Storable (Entries.insert m key (.string s)) := by
  constructor
  case sorted => exact Entries.sorted_insert h.sorted _ _
  case legible => exact Entries.forall_insert h.legible trivial
  case regular => exact Entries.forall_insert h.regular trivial

private theorem storable_addRequired (params : Params) (required : List String) {m : Members}
    (h : m.Storable) : Json.Members.Storable (addRequired params m required) := by
  unfold addRequired
  induction required generalizing m with
  | nil => exact h
  | cons key rest ih =>
    refine ih ?_
    dsimp only
    split
    · exact h
    · cases Entries.get? params key with
      | none => exact h
      | some s => exact storable_insert h key s

private theorem exists_of_mem_bindParameters {required : List String} {params : Params}
    {m : Members} {p : String × Value} (h : p ∈ bindParameters required params m) :
    ∃ q ∈ m, p = (q.1, (Placeholder.bind params q.2).1) := by
  induction m with
  | nil => cases h
  | cons q rest ih =>
    obtain ⟨key, raw⟩ := q
    have hrest (hp : p ∈ bindParameters required params rest) :
        ∃ q ∈ (key, raw) :: rest, p = (q.1, (Placeholder.bind params q.2).1) := by
      obtain ⟨q, hq, heq⟩ := ih hp
      exact ⟨q, List.mem_cons_of_mem _ hq, heq⟩
    simp only [bindParameters] at h
    split at h
    · exact hrest h
    · rcases List.mem_cons.mp h with rfl | hp
      · exact ⟨(key, raw), List.mem_cons_self, rfl⟩
      · exact hrest hp

private theorem sorted_bindParameters (required : List String) (params : Params) {m : Members}
    (h : Entries.Sorted m) : Entries.Sorted (bindParameters required params m) := by
  induction m with
  | nil => exact h
  | cons q rest ih =>
    obtain ⟨key, raw⟩ := q
    obtain ⟨hkey, hrest⟩ := List.pairwise_cons.mp h
    simp only [bindParameters]
    split
    · exact ih hrest
    · refine List.pairwise_cons.mpr ⟨fun p hp => ?_, ih hrest⟩
      obtain ⟨q, hq, rfl⟩ := exists_of_mem_bindParameters hp
      exact hkey q hq

private theorem storable_bindParameters (required : List String) (params : Params) {m : Members}
    (h : m.Storable) : Json.Members.Storable (bindParameters required params m) := by
  constructor
  case sorted => exact sorted_bindParameters required params h.sorted
  case legible =>
    intro p hp
    obtain ⟨q, hq, rfl⟩ := exists_of_mem_bindParameters hp
    exact Placeholder.bind_legible params q.2 (h.legible q hq)
  case regular =>
    intro p hp
    obtain ⟨q, hq, rfl⟩ := exists_of_mem_bindParameters hp
    exact Placeholder.bind_regular params q.2 (h.regular q hq)

private theorem storable_bindStep (registry : Registry) (params : Params) {s : StepSkeleton}
    (h : s.parameters.Storable) : (bindStep registry params s).parameters.Storable :=
  storable_addRequired _ _ (storable_bindParameters _ _ h)

private theorem storable_compile (c : Compiler) {id : Id} {now : Time.Instant} {b : Blueprint}
    {params : Params} (hid : Id.ofText? id.text = some id)
    (hnow : Time.Instant.ofText? now.render = some now)
    (hb : ∀ s ∈ b.steps, s.parameters.Storable) (hparams : Entries.Sorted params) :
    (c.compile id now b params).Storable where
  id := hid
  createdAt := hnow
  dependencies := Entries.sorted_ofList _
  parameters := hparams
  steps := by
    intro s hs
    obtain ⟨skeleton, hskeleton, rfl⟩ := List.mem_map.mp hs
    exact storable_bindStep c.registry params (hb skeleton hskeleton)

end Compiler

/-! ## Plans -/

private theorem StepSkeleton.regular_of_decode {source : Source} {s : StepSkeleton}
    (h : StepSkeleton.decode (maxDepth - 2) source = some s) :
    Entries.Sorted s.parameters ∧ ∀ p ∈ s.parameters, p.2.Regular (maxDepth - 4) := by
  simp only [StepSkeleton.decode, Decoder.recordWith, Option.bind_eq_bind, Option.bind_eq_some_iff,
    Option.pure_def, Option.some.injEq] at h
  obtain ⟨r, hr, id, -, driver, -, operation, -, parameters, hparameters, dependsOn, -, rfl⟩ := h
  have hdepth : r.depth = maxDepth - 3 := Record.depth_of_ofSource? hr
  rcases Record.of_orElse hparameters with rfl | ⟨t, ht⟩
  · exact ⟨List.Pairwise.nil, fun p hp => absurd hp List.not_mem_nil⟩
  · rw [hdepth] at ht
    exact Decoder.regular_of_entries ht

/-- A plan that is read from a text can be stored once it is compiled, if its numbers can. -/
theorem Plan.storable_of_ofText? {text : String} {p : Plan} (h : Plan.decode.ofText? text = some p)
    (hlegible : ∀ s ∈ p.steps, ∀ q ∈ s.parameters, q.2.Legible) :
    ∀ s ∈ p.steps, s.parameters.Storable := by
  simp only [Decoder.ofText?, Plan.decode, Decoder.record, Option.bind_eq_bind,
    Option.bind_eq_some_iff, Option.pure_def, Option.some.injEq] at h
  obtain ⟨source, -, r, hr, name, -, description, -, steps, hsteps, rfl⟩ := h
  have hdepth : r.depth = maxDepth - 1 := Record.depth_of_ofSource? hr
  rcases Record.of_orElse hsteps with rfl | ⟨t, ht⟩
  · exact fun s hs => absurd hs List.not_mem_nil
  · rw [hdepth] at ht
    intro s hs
    have hsteps : ∀ t s, StepSkeleton.decode (maxDepth - 2) t = some s →
        Entries.Sorted s.parameters ∧ ∀ q ∈ s.parameters, q.2.Regular (maxDepth - 4) :=
      fun _ _ => StepSkeleton.regular_of_decode
    have hregular := Decoder.forall_of_list hsteps ht s hs
    exact ⟨hregular.1, hlegible s hs, hregular.2⟩

namespace Workflow

private theorem read_version {w : Workflow} (h : w.Storable) {n : Nat} (hn : n < 2 ^ 32) :
    read (w.toJson.put "schema_version" (.nat n)).render =
      checkVersion { w with schemaVersion := n } := by
  rw [read_put h (Value.legible_nat hn), Decoder.natBits_nat hn]
  rfl

/-- A workflow of the current version is read as it was. -/
theorem read_render {w : Workflow} (h : w.Storable)
    (hversion : w.schemaVersion = Automation.schemaVersion) : read w.render = .ok w := by
  have hsmall : w.schemaVersion < 2 ^ 32 := by
    rw [hversion]
    decide
  have hsame : w.toJson.put "schema_version" (.nat w.schemaVersion) = w.toJson := put_toJson w _
  have hread := read_version h hsmall
  rw [hsame] at hread
  exact hread.trans (if_pos hversion)

/-- The document of the workflow holds all of it, with another version it is refused, and whoever
reads it finds what validation against the registry finds. -/
structure Kept (registry : Registry) (w : Workflow) : Prop where
  read : Workflow.read w.render = .ok w
  /-- A version is a number of 32 bits. -/
  version : ∀ n < 2 ^ 32, n ≠ Automation.schemaVersion →
    Workflow.read (w.toJson.put "schema_version" (.nat n)).render = .error (.unsupportedVersion n)
  noVersion : ∀ v : Value, v.Legible → (∀ n < 2 ^ 32, v ≠ .nat n) →
    Workflow.read (w.toJson.put "schema_version" v).render = .error .malformed
  report : ∀ w', Workflow.read w.render = .ok w' → Compiler.validate registry w' = w.validation
  revalidates : ∀ w', Workflow.read w.render = .ok w' →
    (w'.revalidate registry = .ok () ↔ w.validation.isValid = true)

end Workflow

/-- Storing a compiled workflow loses nothing and changes no verdict, if its parameters, its id and
its time can be stored. -/
theorem Compiler.compile_kept (c : Compiler) {id : Id} {now : Time.Instant} {b : Blueprint}
    {params : Params} (hid : Id.ofText? id.text = some id)
    (hnow : Time.Instant.ofText? now.render = some now)
    (hb : ∀ s ∈ b.steps, s.parameters.Storable) (hparams : Entries.Sorted params) :
    (c.compile id now b params).Kept c.registry := by
  have hstorable := c.storable_compile hid hnow hb hparams
  have hread := Workflow.read_render hstorable rfl
  have hreport : Compiler.validate c.registry (c.compile id now b params) =
      (c.compile id now b params).validation := rfl
  constructor
  case read => exact hread
  case version =>
    intro n hn hne
    rw [Workflow.read_version hstorable hn]
    exact if_neg hne
  case noVersion =>
    intro v hv hnone
    rw [Workflow.read_put hstorable hv, Decoder.natBits_eq_none hnone]
    rfl
  case report =>
    intro w' hw'
    cases hread.symm.trans hw'
    exact hreport
  case revalidates =>
    intro w' hw'
    cases hread.symm.trans hw'
    rw [Workflow.revalidate, hreport]
    cases (c.compile id now b params).validation.isValid <;> simp

/-! ## A digest

A plan with a nested parameter and a placeholder for which no parameter is given. -/

namespace Digest

def registry : Registry :=
  ⟨[("feed", { name := "feed", operations := [{ name := "fetch", required := ["tags"] }] }),
    ("mail", { name := "mail", operations := [{ name := "send", required := ["body", "to"] }] })]⟩

def fetch : StepSkeleton where
  id := "fetch"
  driver := "feed"
  operation := "fetch"
  parameters := [("limit", .nat 5),
    ("tags", .array [.string "\x7b\x7btopic\x7d\x7d", .object [("lang", .string "en")]])]

def send : StepSkeleton where
  id := "send"
  driver := "mail"
  operation := "send"
  parameters := [("body", .string "step:fetch.output"), ("to", .string "\x7b\x7bto\x7d\x7d")]

def workflow : Workflow :=
  Compiler.compile ⟨registry, .failFast⟩ (.generated 7) ⟨1700000000, 250000000⟩
    (.plan { name := "digest", steps := [fetch, send] }) [("topic", "news")]

private theorem storable_fetch : fetch.parameters.Storable where
  sorted := by
    unfold Entries.Sorted
    decide +kernel
  legible := by
    have hlimit : (Value.nat 5).Legible := Value.legible_nat (by decide)
    have htags : (Value.array [.string "\x7b\x7btopic\x7d\x7d",
        .object [("lang", .string "en")]]).Legible := ⟨trivial, ⟨trivial, trivial⟩, trivial⟩
    simp [fetch, hlimit, htags]
  regular := by
    have hlang : Entries.Sorted [("lang", Value.string "en")] := List.pairwise_singleton _ _
    simp [fetch, Value.nat, Value.Regular, Value.RegularItems, Value.RegularMembers, maxDepth,
      hlang]

private theorem storable_send : send.parameters.Storable where
  sorted := by
    unfold Entries.Sorted
    decide +kernel
  legible := by simp [send]
  regular := by simp [send, Value.Regular]

private theorem storable : ∀ s ∈ [fetch, send], s.parameters.Storable := by
  intro s hs
  simp only [List.mem_cons, List.not_mem_nil, or_false] at hs
  rcases hs with rfl | rfl
  · exact storable_fetch
  · exact storable_send

end Digest

open Digest

/-- The digest lacks its recipient, and its document says so. -/
theorem Compiler.compile_kept_digest : Digest.workflow.Kept Digest.registry ∧
    Digest.workflow.validation = ⟨false, ["to"], []⟩ := by
  have hid : Id.ofText? (Id.generated 7).text = some (Id.generated 7) := by decide +kernel
  have hnow : Time.Instant.ofText? (Time.Instant.render ⟨1700000000, 250000000⟩) =
      some ⟨1700000000, 250000000⟩ := by decide +kernel
  have hsorted : Entries.Sorted [("topic", "news")] := List.pairwise_singleton _ _
  have hvalidation : Digest.workflow.validation = ⟨false, ["to"], []⟩ := by decide +kernel
  exact ⟨Compiler.compile_kept ⟨Digest.registry, .failFast⟩ hid hnow storable hsorted, hvalidation⟩

end Automation
