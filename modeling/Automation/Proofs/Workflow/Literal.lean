import Automation.Proofs.Workflow.Substitution

/-!
# Parameters as data

A compilation looks at the value of a step's parameter for its references, for the placeholders left
in it, and for whether anything is there at all. None of this depends on what the user's parameters
read like, as long as no parameter opens braces and no text that one is filled into reads as a
reference as a whole. A parameter that opens braces is looked at like the text of the blueprint.
-/

namespace Automation

open Json

/-- What a compilation looks at in the value of a parameter. -/
structure Aspect where
  references : List Reference
  /-- The names of the placeholders left. -/
  names : List String
  /-- Null or nothing but blanks. -/
  hollow : Bool
deriving DecidableEq

/-- What a compilation looks at in the value. -/
def Json.Value.aspect (v : Value) : Aspect :=
  ⟨Reference.inValue v, Placeholder.keysIn v, v.isHollow⟩

/-- The two give values for the same names. -/
def Params.SameNames (params params' : Params) : Prop :=
  ∀ n, Entries.has params n = Entries.has params' n

private theorem Params.SameNames.get? {params params' : Params} (h : params.SameNames params')
    (n : String) :
    (Entries.get? params n = none ∧ Entries.get? params' n = none) ∨
      ∃ v v', Entries.get? params n = some v ∧ Entries.get? params' n = some v' := by
  have hn := h n
  unfold Entries.has at hn
  cases hv : Entries.get? params n <;> cases hv' : Entries.get? params' n <;> simp_all

/-- Every value is more than blanks, opens no braces and is no reference. -/
structure Params.Literal (params : Params) : Prop where
  proper : ∀ n v, Entries.get? params n = some v → Text.isBlankText v = false
  shut : ∀ n v, Entries.get? params n = some v → Text.Shut v.toList
  noReference : ∀ n v, Entries.get? params n = some v → Reference.ofText? v = none

/-- No default of a placeholder opens braces. -/
def Blueprint.Shut (b : Blueprint) : Prop :=
  ∀ s ∈ b.steps, ∀ q ∈ Placeholder.inMembers s.parameters, ∀ d ∈ q.default, Text.Shut d

instance (b : Blueprint) : Decidable b.Shut :=
  inferInstanceAs (Decidable (∀ s ∈ b.steps, ∀ q ∈ Placeholder.inMembers s.parameters, _))

/-- A parameter is filled into the text. -/
def Params.Fills (params : Params) (t : String) : Prop :=
  ∃ q ∈ Placeholder.inText t, Entries.has params q.key = true

instance (params : Params) (t : String) : Decidable (params.Fills t) :=
  inferInstanceAs (Decidable (∃ q ∈ Placeholder.inText t, _))

/-- No text that a parameter is filled into reads as a reference as a whole afterwards. -/
def Blueprint.Apart (b : Blueprint) (params : Params) : Prop :=
  ∀ s ∈ b.steps, ∀ t ∈ Value.leavesOfMembers s.parameters, params.Fills t →
    Reference.ofText? (Placeholder.bindText params t).1 = none

instance (b : Blueprint) (params : Params) : Decidable (b.Apart params) :=
  inferInstanceAs (Decidable (∀ s ∈ b.steps, ∀ t ∈ Value.leavesOfMembers s.parameters, _))

namespace Entries

variable {α β : Type}

private theorem has_mapValues (f : α → β) (m : Entries α) (key : String) :
    has (mapValues f m) key = has m key := by
  rw [has, has, get?_mapValues, Option.isSome_map]

private theorem mapValues_insert (f : α → β) (m : Entries α) (k : String) (v : α) :
    mapValues f (insert m k v) = insert (mapValues f m) k (f v) := by
  induction m with
  | nil => rfl
  | cons p m ih =>
    obtain ⟨l, u⟩ := p
    simp only [insert, mapValues, List.map_cons] at ih ⊢
    split
    · rfl
    · split
      · rfl
      · rw [List.map_cons, ih]

end Entries

namespace Reference

mutual

theorem inValue_eq_flatMap (v : Value) : inValue v = v.leaves.flatMap inText := by
  cases v with
  | null | bool | number => rfl
  | string s => simp [inValue, Value.leaves]
  | array items => exact inItems_eq_flatMap items
  | object members => exact inMembers_eq_flatMap members

theorem inItems_eq_flatMap (items : List Value) :
    inItems items = (Value.leavesOfItems items).flatMap inText := by
  cases items with
  | nil => rfl
  | cons v rest =>
    rw [inItems, Value.leavesOfItems, List.flatMap_append, inValue_eq_flatMap v,
      inItems_eq_flatMap rest]

theorem inMembers_eq_flatMap (members : List (String × Value)) :
    inMembers members = (Value.leavesOfMembers members).flatMap inText := by
  cases members with
  | nil => rfl
  | cons m rest =>
    obtain ⟨k, v⟩ := m
    rw [inMembers, Value.leavesOfMembers, List.flatMap_append, inValue_eq_flatMap v,
      inMembers_eq_flatMap rest]

end

private theorem inText_of_shut {s : String} (hs : ofText? s = none) (h : Text.Shut s.toList) :
    inText s = [] := by
  rw [inText, hs]
  exact Piece.found_of_shut (fun _ => rfl) h

end Reference

namespace Placeholder

variable {params params' : Params}

private theorem isOpen_congr (h : params.SameNames params') : isOpen params = isOpen params' := by
  funext q
  rcases h.get? q.key with ⟨hv, hv'⟩ | ⟨v, v', hv, hv'⟩ <;> simp [isOpen, value?, hv, hv']

private theorem bindText_congr {t : String}
    (h : ∀ q ∈ inText t, q.value? params = q.value? params') :
    bindText params t = bindText params' t := by
  have hpiece : ∀ p ∈ Piece.ofChars t.toList, bindPiece params p = bindPiece params' p := by
    intro p hp
    unfold bindPiece
    cases hq : ofPiece? p with
    | none => rfl
    | some q => simp only [h q (List.mem_filterMap.mpr ⟨p, hp, hq⟩)]
  rw [bindText, bindText, List.map_congr_left hpiece]

private theorem bindText_of_not_fills {t : String} (hnames : params.SameNames params')
    (h : ¬ params.Fills t) : bindText params t = bindText params' t := by
  apply bindText_congr
  intro q hq
  rcases hnames.get? q.key with ⟨hv, hv'⟩ | ⟨v, v', hv, -⟩
  · rw [value?, value?, hv, hv']
  · exact absurd ⟨q, hq, by simp [Entries.has, hv]⟩ h

private theorem isBlankText_of_fills {t : String} (h : params.Literal) (ht : params.Fills t) :
    Text.isBlankText (bindText params t).1 = false := by
  obtain ⟨q, hq, hhas⟩ := ht
  obtain ⟨v, hv⟩ := Option.isSome_iff_exists.mp hhas
  obtain ⟨p, hp, hpq⟩ := List.mem_filterMap.mp hq
  have hpiece : (bindPiece params p).1 = v.toList := by simp [bindPiece, hpq, value?, hv]
  have hproper := h.proper q.key v hv
  rw [Text.isBlankText, List.all_eq_false] at hproper ⊢
  obtain ⟨c, hc, hblank⟩ := hproper
  refine ⟨c, ?_, hblank⟩
  rw [toList_bindText, boundChars, List.mem_flatMap]
  exact ⟨p, hp, hpiece ▸ hc⟩

/-! ## What is looked at in a bound value -/

/-- The parameters bring nothing but text into the text. -/
structure Inert (params : Params) (t : String) : Prop where
  harmless : ∀ q ∈ inText t, q.Harmless params
  apart : params.Fills t → Reference.ofText? (bindText params t).1 = none

private theorem aspect_string (t : String) :
    (Value.string t).aspect = ⟨Reference.inText t, keysInText t, Text.isBlankText t⟩ := by
  simp only [Value.aspect, Reference.inValue, keysIn, Value.isHollow]

private theorem references_of_fills {t : String} (ht : Inert params t) (hfills : params.Fills t) :
    Reference.inText (bindText params t).1 = Reference.embeddedInText t :=
  (Outputs.inText_of_embedded (ht.apart hfills)).trans (embeddedInText_bindText ht.harmless)

private theorem aspect_bindText (hnames : params.SameNames params') (h : params.Literal)
    (h' : params'.Literal) {t : String} (ht : Inert params t) (ht' : Inert params' t) :
    (Value.string (bindText params t).1).aspect = (Value.string (bindText params' t).1).aspect := by
  by_cases hfills : params.Fills t
  · -- either text keeps the references and the open placeholders of the skeleton, and no others
    have hfills' : params'.Fills t := by
      obtain ⟨q, hq, hhas⟩ := hfills
      exact ⟨q, hq, hnames q.key ▸ hhas⟩
    have hreferences : Reference.inText (bindText params t).1 =
        Reference.inText (bindText params' t).1 := by
      rw [references_of_fills ht hfills, references_of_fills ht' hfills']
    have hkeys : keysInText (bindText params t).1 = keysInText (bindText params' t).1 := by
      rw [keysInText_eq, keysInText_eq, inText_bindText ht.harmless, inText_bindText ht'.harmless,
        isOpen_congr hnames]
    have hblank : Text.isBlankText (bindText params t).1 =
        Text.isBlankText (bindText params' t).1 := by
      rw [isBlankText_of_fills h hfills, isBlankText_of_fills h' hfills']
    rw [aspect_string, aspect_string, hreferences, hkeys, hblank]
  · rw [bindText_of_not_fills hnames hfills]

private theorem aspect_bind (hnames : params.SameNames params') (h : params.Literal)
    (h' : params'.Literal)
    {v : Value} (hv : ∀ t ∈ v.leaves, Inert params t) (hv' : ∀ t ∈ v.leaves, Inert params' t) :
    (bind params v).1.aspect = (bind params' v).1.aspect := by
  have htext : ∀ t ∈ v.leaves, (Value.string (bindText params t).1).aspect =
      (Value.string (bindText params' t).1).aspect :=
    fun t ht => aspect_bindText hnames h h' (hv t ht) (hv' t ht)
  simp only [aspect_string, Aspect.mk.injEq] at htext
  have hreferences : Reference.inValue (bind params v).1 =
      Reference.inValue (bind params' v).1 := by
    rw [Reference.inValue_eq_flatMap, Reference.inValue_eq_flatMap, leaves_bind, leaves_bind,
      List.flatMap_map, List.flatMap_map]
    exact List.flatMap_congr fun t ht => (htext t ht).1
  have hkeys : keysIn (bind params v).1 = keysIn (bind params' v).1 := by
    rw [keysIn_eq_flatMap, keysIn_eq_flatMap, leaves_bind, leaves_bind, List.flatMap_map,
      List.flatMap_map]
    exact List.flatMap_congr fun t ht => (htext t ht).2.1
  have hhollow : (bind params v).1.isHollow = (bind params' v).1.isHollow := by
    cases v with
    | null | bool | number | array | object => rfl
    | string t => exact (htext t (by simp [Value.leaves])).2.2
  rw [Value.aspect, Value.aspect, hreferences, hkeys, hhollow]

/-- Nothing is looked at in a value of a user but that it is there. -/
theorem aspect_of_literal (h : params.Literal) {n v : String}
    (hv : Entries.get? params n = some v) : (Value.string v).aspect = ⟨[], [], false⟩ := by
  have hshut := h.shut n v hv
  have hreferences : Reference.inText v = [] :=
    Reference.inText_of_shut (h.noReference n v hv) hshut
  have hkeys : keysInText v = [] := by rw [keysInText_eq, inText_of_shut hshut, List.map_nil]
  rw [aspect_string, hreferences, hkeys, h.proper n v hv]

end Placeholder

namespace Compiler

variable {registry : Registry} {params params' : Params}

/-- What a compilation looks at in parameters. -/
def aspects (ms : Members) : Entries Aspect := Entries.mapValues Value.aspect ms

private theorem aspects_bindParameters (hnames : params.SameNames params') (h : params.Literal)
    (h' : params'.Literal) (required : List String) {ms : Members}
    (hms : ∀ t ∈ Value.leavesOfMembers ms, Placeholder.Inert params t)
    (hms' : ∀ t ∈ Value.leavesOfMembers ms, Placeholder.Inert params' t) :
    aspects (bindParameters required params ms) = aspects (bindParameters required params' ms) := by
  induction ms with
  | nil => rfl
  | cons m ms ih =>
    obtain ⟨k, v⟩ := m
    rw [Value.leavesOfMembers, List.forall_mem_append] at hms hms'
    have haspect := Placeholder.aspect_bind hnames h h' hms.1 hms'.1
    have hunbound : (Placeholder.bind params v).2 = (Placeholder.bind params' v).2 := by
      rw [Placeholder.bind_snd, Placeholder.bind_snd, Placeholder.isOpen_congr hnames]
    have hrest := ih hms.2 hms'.2
    simp only [bindParameters, hunbound]
    split
    · exact hrest
    · simp only [aspects, Entries.mapValues, List.map_cons] at hrest ⊢
      rw [haspect, hrest]

private theorem aspects_addRequired (hnames : params.SameNames params') (h : params.Literal)
    (h' : params'.Literal) (required : List String) {bound bound' : Members}
    (hbound : aspects bound = aspects bound') :
    aspects (addRequired params bound required) =
      aspects (addRequired params' bound' required) := by
  induction required generalizing bound bound' with
  | nil => exact hbound
  | cons k required ih =>
    simp only [addRequired, List.foldl_cons] at ih ⊢
    apply ih
    have hhas : Entries.has bound k = Entries.has bound' k := by
      rw [← Entries.has_mapValues Value.aspect, ← Entries.has_mapValues Value.aspect bound']
      exact congrArg (Entries.has · k) hbound
    rw [hhas]
    split
    · exact hbound
    · rcases hnames.get? k with ⟨hv, hv'⟩ | ⟨v, v', hv, hv'⟩
      · rw [hv, hv']
        exact hbound
      · rw [hv, hv']
        simp only [aspects] at hbound ⊢
        rw [Entries.mapValues_insert, Entries.mapValues_insert, hbound,
          Placeholder.aspect_of_literal h hv, Placeholder.aspect_of_literal h' hv']

/-! ## Steps and workflows -/

private theorem inert_of_apart (h : params.Literal) {b : Blueprint} (hb : b.Shut)
    (hapart : b.Apart params) {s : StepSkeleton} (hs : s ∈ b.steps) :
    ∀ t ∈ Value.leavesOfMembers s.parameters, Placeholder.Inert params t := by
  intro t ht
  refine ⟨fun q hq => Placeholder.harmless_of_shut (h.shut q.key) (hb s hs q ?_), hapart s hs t ht⟩
  rw [Placeholder.inMembers_eq_flatMap]
  exact List.mem_flatMap.mpr ⟨t, ht, hq⟩

/-- Steps that differ at most in what is not looked at. -/
structure Alike (s s' : Step) : Prop where
  id : s.id = s'.id
  driver : s.driver = s'.driver
  operation : s.operation = s'.operation
  dependsOn : s.dependsOn = s'.dependsOn
  parameters : aspects s.parameters = aspects s'.parameters

private theorem inMembers_eq_aspects (ms : Members) :
    Reference.inMembers ms = (aspects ms).flatMap fun p => p.2.references := by
  induction ms with
  | nil => rfl
  | cons m ms ih =>
    obtain ⟨k, v⟩ := m
    rw [Reference.inMembers, ih]
    rfl

private theorem missingNames_eq_aspect (k : String) (v : Value) :
    missingNames k (some v) = if v.aspect.hollow then [k] else v.aspect.names := by
  change _ = if v.isHollow then [k] else Placeholder.keysIn v
  cases hv : v.isHollow with
  | true => simp [missingNames_of_isHollow hv]
  | false => simp [missingNames_of_not_isHollow hv, Placeholder.keysIn_eq]

variable {s s' : Step}

private theorem Alike.referencedSteps (h : Alike s s') :
    s.referencedSteps = s'.referencedSteps := by
  rw [Step.referencedSteps, Step.referencedSteps, inMembers_eq_aspects, inMembers_eq_aspects,
    h.parameters]

private theorem Alike.dependencies (h : Alike s s') : s.dependencies = s'.dependencies := by
  rw [Step.dependencies, Step.dependencies, h.dependsOn, h.referencedSteps]

private theorem Alike.stepErrors (h : Alike s s') (ids : List String) :
    stepErrors registry ids s = stepErrors registry ids s' := by
  simp only [Compiler.stepErrors, h.id, h.driver, h.operation, h.dependsOn, h.referencedSteps]

private theorem Alike.stepMissing (h : Alike s s') :
    stepMissing registry s = stepMissing registry s' := by
  rw [Compiler.stepMissing, Compiler.stepMissing, h.driver, h.operation]
  apply List.flatMap_congr
  intro k _
  have haspect : (Entries.get? s.parameters k).map Value.aspect =
      (Entries.get? s'.parameters k).map Value.aspect := by
    rw [← Entries.get?_mapValues, ← Entries.get?_mapValues]
    exact congrArg (Entries.get? · k) h.parameters
  cases hv : Entries.get? s.parameters k <;> cases hv' : Entries.get? s'.parameters k <;>
    simp_all [missingNames_eq_aspect]

private theorem findCycle_congr {w w' : Workflow} (hids : w.steps.map (·.id) = w'.steps.map (·.id))
    (hdependencies : w.dependencies = w'.dependencies) : w.findCycle = w'.findCycle := by
  have hof : w.dependenciesOf = w'.dependenciesOf := by
    funext id
    rw [Workflow.dependenciesOf, Workflow.dependenciesOf, hdependencies]
  rw [Workflow.findCycle, Workflow.findCycle, hids, hof]

private theorem validate_congr {w w' : Workflow} (hids : w.steps.map (·.id) = w'.steps.map (·.id))
    (hdependencies : w.dependencies = w'.dependencies)
    (hmissing : w.steps.flatMap (stepMissing registry) = w'.steps.flatMap (stepMissing registry))
    (herrors : ∀ ids, w.steps.flatMap (stepErrors registry ids) =
      w'.steps.flatMap (stepErrors registry ids)) : validate registry w = validate registry w' := by
  have hempty : w.steps.isEmpty = w'.steps.isEmpty := by
    simpa using congrArg List.isEmpty hids
  simp only [validate, hids, hempty, hmissing, herrors, findCycle_congr hids hdependencies]

/-- If its steps are bound alike, a blueprint gets the same dependencies and the same report. -/
theorem compile_congr {c : Compiler} {b : Blueprint}
    (h : ∀ s ∈ b.steps, Alike (bindStep c.registry params s) (bindStep c.registry params' s))
    (id id' : Id) (now now' : Time.Instant) :
    (c.compile id now b params).dependencies = (c.compile id' now' b params').dependencies ∧
      (c.compile id now b params).validation = (c.compile id' now' b params').validation := by
  have hids : (b.steps.map (bindStep c.registry params)).map (·.id) =
      (b.steps.map (bindStep c.registry params')).map (·.id) := by
    rw [List.map_map, List.map_map]
    rfl
  have hdependencies : (c.compile id now b params).dependencies =
      (c.compile id' now' b params').dependencies := by
    change Workflow.dependencyMap (b.steps.map _) = Workflow.dependencyMap (b.steps.map _)
    rw [Workflow.dependencyMap, Workflow.dependencyMap, List.map_map, List.map_map]
    exact congrArg Entries.ofList
      (List.map_congr_left fun s hs => congrArg (s.id, ·) (h s hs).dependencies)
  refine ⟨hdependencies, validate_congr hids hdependencies ?_ fun ids => ?_⟩
  · change (b.steps.map _).flatMap _ = (b.steps.map _).flatMap _
    rw [List.flatMap_map, List.flatMap_map]
    exact List.flatMap_congr fun s hs => (h s hs).stepMissing
  · change (b.steps.map _).flatMap _ = (b.steps.map _).flatMap _
    rw [List.flatMap_map, List.flatMap_map]
    exact List.flatMap_congr fun s hs => (h s hs).stepErrors ids

/-- Two sets of parameters with the same names give the same dependencies and the same report, and
with it the same missing names, if their values are more than blanks, open no braces and make no
text a reference. -/
theorem compile_literal {c : Compiler} {b : Blueprint} (hb : b.Shut)
    (hnames : params.SameNames params') (h : params.Literal) (h' : params'.Literal)
    (hapart : b.Apart params) (hapart' : b.Apart params') (id id' : Id) (now now' : Time.Instant) :
    (c.compile id now b params).dependencies = (c.compile id' now' b params').dependencies ∧
      (c.compile id now b params).validation = (c.compile id' now' b params').validation := by
  have halike : ∀ s ∈ b.steps,
      Alike (bindStep c.registry params s) (bindStep c.registry params' s) := fun s hs =>
    { id := rfl
      driver := rfl
      operation := rfl
      dependsOn := rfl
      parameters := aspects_addRequired hnames h h' _
        (aspects_bindParameters hnames h h' _ (inert_of_apart h hb hapart hs)
          (inert_of_apart h' hb hapart' hs)) }
  exact compile_congr halike id id' now now'

private theorem sameNames_single (n v v' : String) : Params.SameNames [(n, v)] [(n, v')] := by
  intro m
  by_cases h : n = m <;> simp [Entries.has, Entries.get?_cons, h]

private theorem literal_single {n v : String} (hproper : Text.isBlankText v = false)
    (hshut : Text.Shut v.toList) (hreference : Reference.ofText? v = none) :
    Params.Literal [(n, v)] := by
  have hvalue {m u : String} (hu : Entries.get? [(n, v)] m = some u) : u = v := by
    rw [Entries.get?_cons] at hu
    split at hu <;> cases hu
    rfl
  exact ⟨fun _ _ hu => hvalue hu ▸ hproper, fun _ _ hu => hvalue hu ▸ hshut,
    fun _ _ hu => hvalue hu ▸ hreference⟩

/-- A greeting gets the same report for Ann and for a name in single braces. -/
theorem compile_literal_greeting :
    let greeting := notice (.string "Hello \x7b\x7bname\x7d\x7d")
    greeting.Shut ∧ Params.SameNames [("name", "Ann")] [("name", "\x7bBob\x7d")] ∧
      Params.Literal [("name", "Ann")] ∧ Params.Literal [("name", "\x7bBob\x7d")] ∧
      greeting.Apart [("name", "Ann")] ∧ greeting.Apart [("name", "\x7bBob\x7d")] ∧
      (notifier.compile .zero ⟨0, 0⟩ greeting [("name", "Ann")]).validation =
        (notifier.compile .zero ⟨0, 0⟩ greeting [("name", "\x7bBob\x7d")]).validation := by
  intro greeting
  have hshut : greeting.Shut := by decide +kernel
  have hnames := sameNames_single "name" "Ann" "\x7bBob\x7d"
  have hann : Params.Literal [("name", "Ann")] :=
    literal_single (by decide) (by decide) (by decide)
  have hbob : Params.Literal [("name", "\x7bBob\x7d")] :=
    literal_single (by decide) (by decide) (by decide)
  have hapart : greeting.Apart [("name", "Ann")] := by decide +kernel
  have hapart' : greeting.Apart [("name", "\x7bBob\x7d")] := by decide +kernel
  have hsame := (compile_literal (c := notifier) hshut hnames hann hbob hapart hapart' .zero .zero
    ⟨0, 0⟩ ⟨0, 0⟩).2
  exact ⟨hshut, hnames, hann, hbob, hapart, hapart', hsame⟩

/-- A typed text with double braces brings a name to ask for into a note, and a step to wait for. -/
theorem compile_literal_braces :
    let note := notice (.string "Note: \x7b\x7bm\x7d\x7d")
    let typed := "\x7b\x7bwho\x7d\x7d wrote \x7b\x7bstep:x.output\x7d\x7d"
    let plain := notifier.compile .zero ⟨0, 0⟩ note [("m", "hello")]
    let injected := notifier.compile .zero ⟨0, 0⟩ note [("m", typed)]
    Params.SameNames [("m", "hello")] [("m", typed)] ∧ Text.isBlankText "hello" = false ∧
      Text.isBlankText typed = false ∧
      plain.dependencies = [("n", [])] ∧ plain.validation.missing = [] ∧
      injected.dependencies = [("n", ["x"])] ∧ injected.validation.missing = ["who"] := by
  intro note typed plain injected
  exact ⟨sameNames_single _ _ _, by decide, by decide, by decide +kernel, by decide +kernel,
    by decide +kernel, by decide +kernel⟩

end Compiler

end Automation
