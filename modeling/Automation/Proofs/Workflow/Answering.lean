import Automation.Proofs.Text
import Automation.Proofs.Workflow.Binding
import Automation.Proofs.Workflow.Validity

/-!
# What an answer settles

When the names that a compilation finds missing are supplied and it is repeated, a name is missing
still only where a step itself holds a null or blank value for a required parameter. All other names
that were asked for are settled by the answer, and no new ones come up.
-/

namespace Automation

open Json

/-- The parameters with a proper value for each of the names, and otherwise as they were. -/
structure Params.Answers (params : Params) (names : List String) (params' : Params) : Prop where
  supplied : ∀ n ∈ names, ∃ v, Entries.get? params' n = some v ∧ Text.isBlankText v = false ∧
    '\x7b' ∉ v.toList ∧ '\x7d' ∉ v.toList ∧ Reference.ofText? v = none
  kept : ∀ n, n ∉ names → Entries.get? params' n = Entries.get? params n

/-- No value holds an opening brace. -/
def Params.Plain (params : Params) : Prop :=
  ∀ n v, Entries.get? params n = some v → '\x7b' ∉ v.toList

/-- No default of a placeholder holds an opening brace. -/
def Blueprint.Plain (b : Blueprint) : Prop :=
  ∀ s ∈ b.steps, ∀ q ∈ Placeholder.inMembers s.parameters, ∀ d, q.default = some d → '\x7b' ∉ d

/-- The value is null or a text of blanks. -/
def Json.Value.isHollow : Value → Bool
  | .null => true
  | .string s => Text.isBlankText s
  | _ => false

/-- The step holds a null or blank value for a parameter that its operation requires. -/
def StepSkeleton.Hollow (registry : Registry) (params : Params) (s : StepSkeleton) (n : String) :
    Prop :=
  n ∈ Compiler.requiredOf registry s.driver s.operation ∧
    ∃ v, Entries.get? s.parameters n = some v ∧ (Placeholder.bind params v).1.isHollow = true

namespace Reference

/-- A character that a reference can hold. -/
def mayHold (c : Char) : Bool := isNameChar c || c == ':' || c == '.'

theorem mayHold_of_isName {cs : List Char} (h : isName cs = true) : ∀ c ∈ cs, mayHold c = true := by
  intro c hc
  rw [isName, Bool.and_eq_true, List.all_eq_true] at h
  simp [mayHold, h.2 c hc]

theorem mayHold_of_ofChars? {cs : List Char} {r : Reference} (h : ofChars? cs = some r) :
    ∀ c ∈ Text.trimChars cs, mayHold c = true := by
  unfold ofChars? at h
  simp only [Option.bind_eq_bind, Option.bind_eq_some_iff, Prod.exists] at h
  obtain ⟨rest, hlead, id, tail, hcut, h⟩ := h
  rw [Text.eq_append_of_dropLead? hlead, Text.eq_append_of_cutAt hcut]
  split at h
  · cases h
  · next hid =>
    have hid : ∀ c ∈ id, mayHold c = true := mayHold_of_isName (by simpa using hid)
    have htail : ∀ c ∈ tail, mayHold c = true := by
      split at h
      · simp
      · next field =>
        split at h
        · next hfield => exact List.forall_mem_cons.mpr ⟨rfl, mayHold_of_isName hfield⟩
        · cases h
      · cases h
    have hlead : lead.all mayHold = true := by decide
    have hmark : outputMark.all mayHold = true := by decide
    rw [List.all_eq_true] at hlead hmark
    simp only [List.forall_mem_append]
    exact ⟨hlead, ⟨hid, hmark⟩, htail⟩

private theorem notMem_of_ofText? {s : String} {r : Reference} (h : ofText? s = some r) :
    '\x7b' ∉ s.toList :=
  fun hmem => absurd (mayHold_of_ofChars? h _ (Text.mem_stripChars hmem (by decide))) (by decide)

private theorem ofText?_of_isBlankText {s : String} (h : Text.isBlankText s = true) :
    ofText? s = none := by
  have htrim : Text.trimChars s.toList = [] := by
    have hdrop : s.toList.dropWhile Text.isBlank = [] :=
      List.dropWhile_eq_nil_iff.mpr (List.all_eq_true.mp h)
    rw [Text.trimChars, Text.stripChars, hdrop]
    rfl
  rw [ofText?, ofChars?, htrim]
  rfl

end Reference

namespace Compiler

variable {registry : Registry} {params : Params}

/-! ## The parameters of a bound step -/

private theorem get?_bindParameters {required : List String} {n : String} (hn : n ∈ required)
    (ms : Members) :
    Entries.get? (bindParameters required params ms) n =
      (Entries.get? ms n).map fun v => (Placeholder.bind params v).1 := by
  induction ms with
  | nil => rfl
  | cons m ms ih =>
    obtain ⟨k, v⟩ := m
    rw [bindParameters, Entries.get?_cons]
    by_cases hk : k = n
    · subst hk
      simp [hn, Entries.get?_cons]
    · simp only [if_neg hk, ← ih]
      split
      · rfl
      · rw [Entries.get?_cons, if_neg hk]

private theorem get?_addRequired_single (bound : Members) (k n : String) :
    Entries.get? (addRequired params bound [k]) n =
      (Entries.get? bound n).or (if k = n then (Entries.get? params n).map .string else none) := by
  simp only [addRequired, List.foldl_cons, List.foldl_nil]
  split
  · next hk =>
    obtain ⟨v, hv⟩ := Option.isSome_iff_exists.mp hk
    by_cases hkn : k = n
    · simp [← hkn, hv]
    · simp [hkn]
  · next hk =>
    have hnone : Entries.get? bound k = none := by simpa [Entries.has] using hk
    by_cases hkn : k = n
    · subst hkn
      split <;> simp_all [Entries.get?_insert]
    · split <;> simp [hkn, Entries.get?_insert]

private theorem get?_addRequired (bound : Members) (required : List String) (n : String) :
    Entries.get? (addRequired params bound required) n =
      (Entries.get? bound n).or
        (if n ∈ required then (Entries.get? params n).map .string else none) := by
  induction required generalizing bound with
  | nil => simp [addRequired]
  | cons k required ih =>
    rw [show addRequired params bound (k :: required) =
      addRequired params (addRequired params bound [k]) required from rfl, ih,
      get?_addRequired_single, Option.or_assoc]
    by_cases hkn : k = n
    · by_cases hn : n ∈ required <;> simp [hkn, hn]
    · simp [hkn, Ne.symm hkn]

/-- A required parameter is what the skeleton holds for it, filled in, or else the user's. -/
theorem get?_bindStep {s : StepSkeleton} {n : String}
    (hn : n ∈ requiredOf registry s.driver s.operation) :
    Entries.get? (bindStep registry params s).parameters n =
      ((Entries.get? s.parameters n).map fun v => (Placeholder.bind params v).1).or
        ((Entries.get? params n).map .string) := by
  rw [bindStep, get?_addRequired, get?_bindParameters hn, if_pos hn]

/-! ## What is missing -/

theorem missingNames_of_isHollow {n : String} {v : Value} (h : v.isHollow = true) :
    missingNames n (some v) = [n] := by
  cases v with
  | null => rfl
  | string s =>
    have hblank : Text.isBlankText s = true := h
    simp [missingNames, Reference.ofText?_of_isBlankText h, hblank]
  | bool | number | array | object => cases h

theorem missingNames_of_not_isHollow {n : String} {v : Value} (h : v.isHollow = false) :
    missingNames n (some v) = (Placeholder.inValue v).map (·.key) := by
  cases v with
  | null => cases h
  | bool | number => rfl
  | array items => exact Placeholder.keysInItems_eq items
  | object members => exact Placeholder.keysInMembers_eq members
  | string s =>
    cases hr : Reference.ofText? s with
    | some r =>
      simp [missingNames, hr, Placeholder.inValue,
        Placeholder.inText_of_notMem (Reference.notMem_of_ofText? hr)]
    | none =>
      simp [missingNames, hr, show Text.isBlankText s = false from h, Placeholder.inValue,
        Placeholder.keysInText_eq]

private theorem inValue_of_isHollow {v : Value} (h : v.isHollow = true) :
    Placeholder.inValue v = [] := by
  cases v with
  | null | bool | number => rfl
  | array | object => cases h
  | string s =>
    apply Placeholder.inText_of_notMem
    intro hmem
    exact absurd (List.all_eq_true.mp (h : s.toList.all Text.isBlank = true) _ hmem) (by decide)

/-- The names that are missing for a required parameter of a step. -/
def missingFor (registry : Registry) (params : Params) (s : StepSkeleton) (k : String) :
    List String :=
  missingNames k (Entries.get? (bindStep registry params s).parameters k)

private theorem mem_missing {c : Compiler} {id : Id} {now : Time.Instant} {b : Blueprint}
    {n : String} : n ∈ (c.compile id now b params).validation.missing ↔
      ∃ s ∈ b.steps, ∃ k ∈ requiredOf c.registry s.driver s.operation,
        n ∈ missingFor c.registry params s k := by
  change n ∈ addNew []
    ((b.steps.map (bindStep c.registry params)).flatMap (stepMissing c.registry)) ↔ _
  simp [mem_addNew, stepMissing, missingFor, bindStep]

variable {s : StepSkeleton} {k n : String}

/-- For a parameter that the step holds, its own name is missing if nothing is there, and else the
names left open in it. -/
theorem mem_missingFor_of_some (hk : k ∈ requiredOf registry s.driver s.operation) {v : Value}
    (hv : Entries.get? s.parameters k = some v)
    (hq : ∀ q ∈ Placeholder.inValue v, q.Harmless params) :
    n ∈ missingFor registry params s k ↔
      (s.Hollow registry params k ∧ n = k) ∨
        ∃ q ∈ Placeholder.inValue v, q.isOpen params = true ∧ q.key = n := by
  have hbound : Entries.get? (bindStep registry params s).parameters k =
      some (Placeholder.bind params v).1 := by
    rw [get?_bindStep hk, hv]
    rfl
  have hopen := Placeholder.inValue_bind v hq
  have hhollow : s.Hollow registry params k ↔ (Placeholder.bind params v).1.isHollow = true := by
    simp [StepSkeleton.Hollow, hk, hv]
  rw [missingFor, hbound, hhollow]
  cases h : (Placeholder.bind params v).1.isHollow with
  | true =>
    rw [inValue_of_isHollow h, eq_comm, List.filter_eq_nil_iff] at hopen
    rw [missingNames_of_isHollow h, List.mem_singleton]
    constructor
    · exact fun hn => .inl ⟨rfl, hn⟩
    · rintro (⟨-, hn⟩ | ⟨q, hmem, hq, -⟩)
      · exact hn
      · exact absurd hq (hopen q hmem)
  | false =>
    rw [missingNames_of_not_isHollow h, hopen]
    simp [and_assoc]

/-- For a parameter that the step does not hold, its own name is missing unless the user has given
more than blanks for it. -/
theorem mem_missingFor_of_none (hk : k ∈ requiredOf registry s.driver s.operation)
    (hv : Entries.get? s.parameters k = none) (hparams : params.Plain) :
    n ∈ missingFor registry params s k ↔
      n = k ∧ ∀ t, Entries.get? params k = some t → Text.isBlankText t = true := by
  have hbound : Entries.get? (bindStep registry params s).parameters k =
      (Entries.get? params k).map .string := by
    rw [get?_bindStep hk, hv]
    rfl
  rw [missingFor, hbound]
  cases ht : Entries.get? params k with
  | none => simp [missingNames]
  | some t =>
    have hvalue : (Value.string t).isHollow = Text.isBlankText t := rfl
    cases hblank : Text.isBlankText t with
    | true => simp [missingNames_of_isHollow (hvalue.trans hblank), hblank]
    | false =>
      have hnone := Placeholder.inText_of_notMem (hparams k t ht)
      simp [missingNames_of_not_isHollow (hvalue.trans hblank), Placeholder.inValue, hnone, hblank]

/-! ## Answers -/

private theorem answers_insert (params : Params) {n v : String}
    (hblank : Text.isBlankText v = false)
    (hopening : '\x7b' ∉ v.toList) (hclosing : '\x7d' ∉ v.toList)
    (hreference : Reference.ofText? v = none) : params.Answers [n] (Entries.insert params n v) := by
  constructor
  · intro m hm
    rw [List.mem_singleton.mp hm]
    exact ⟨v, by simp [Entries.get?_insert], hblank, hopening, hclosing, hreference⟩
  · intro m hm
    rw [Entries.get?_insert, if_neg fun heq => hm (List.mem_singleton.mpr heq.symm)]

private theorem plain_of_answers {names : List String} {params' : Params} (hparams : params.Plain)
    (h : params.Answers names params') : params'.Plain := by
  intro n v hv
  by_cases hn : n ∈ names
  · obtain ⟨w, hw, -, hopening, -⟩ := h.supplied n hn
    rw [hv] at hw
    cases hw
    exact hopening
  · exact hparams n v (h.kept n hn ▸ hv)

private theorem harmless_of_plain (hparams : params.Plain) {b : Blueprint} (hb : b.Plain)
    (hs : s ∈ b.steps) {v : Value} (hv : Entries.get? s.parameters k = some v) :
    ∀ q ∈ Placeholder.inValue v, q.Harmless params := fun q hq =>
  have hmem := Placeholder.mem_inMembers (Entries.mem_of_get? hv) hq
  Placeholder.harmless_of_shut (fun v hv => Text.shut_of_notMem (hparams q.key v hv))
    fun d hd => Text.shut_of_notMem (hb s hs q hmem d hd)

private theorem isOpen_of_answers {names : List String} {params' : Params}
    (h : params.Answers names params') {q : Placeholder} (hq : q.isOpen params' = true) :
    q.isOpen params = true ∧ q.key ∉ names := by
  have hnone : Entries.get? params' q.key = none := by
    cases hp : Entries.get? params' q.key with
    | none => rfl
    | some v => simp [Placeholder.isOpen, Placeholder.value?, hp] at hq
  have hnames : q.key ∉ names := by
    intro hmem
    obtain ⟨v, hv, -⟩ := h.supplied _ hmem
    rw [hnone] at hv
    cases hv
  refine ⟨?_, hnames⟩
  rw [Placeholder.isOpen, Placeholder.value?, h.kept _ hnames] at hq
  exact hq

/-- If the names that a compilation finds missing are supplied, then a name is missing in the next
one exactly if a step holds a null or blank value for it though its operation requires it. -/
theorem missing_of_answers {c : Compiler} {b : Blueprint} {params' : Params} {id id' : Id}
    {now now' : Time.Instant} (hparams : params.Plain) (hb : b.Plain)
    (h : params.Answers (c.compile id now b params).validation.missing params') :
    n ∈ (c.compile id' now' b params').validation.missing ↔
      ∃ s ∈ b.steps, s.Hollow c.registry params' n := by
  have hparams' := plain_of_answers hparams h
  rw [mem_missing]
  constructor
  · rintro ⟨s, hs, k, hk, hn⟩
    cases hv : Entries.get? s.parameters k with
    | some v =>
      have hq := harmless_of_plain hparams hb hs hv
      have hq' := harmless_of_plain hparams' hb hs hv
      rcases (mem_missingFor_of_some hk hv hq').mp hn with ⟨hhollow, rfl⟩ | ⟨q, hmem, ho, rfl⟩
      · exact ⟨s, hs, hhollow⟩
      · -- what is still open was open before, so its name was asked for and supplied
        obtain ⟨hopen, hnot⟩ := isOpen_of_answers h ho
        have hbefore := (mem_missingFor_of_some hk hv hq).mpr (.inr ⟨q, hmem, hopen, rfl⟩)
        exact absurd (mem_missing.mpr ⟨s, hs, k, hk, hbefore⟩) hnot
    | none =>
      obtain ⟨rfl, hblank⟩ := (mem_missingFor_of_none hk hv hparams').mp hn
      by_cases hmem : n ∈ (c.compile id now b params).validation.missing
      · obtain ⟨t, ht, hsome, -⟩ := h.supplied n hmem
        rw [hblank t ht] at hsome
        cases hsome
      · rw [h.kept n hmem] at hblank
        have hbefore := (mem_missingFor_of_none hk hv hparams).mpr ⟨rfl, hblank⟩
        exact absurd (mem_missing.mpr ⟨s, hs, n, hk, hbefore⟩) hmem
  · rintro ⟨s, hs, hk, v, hv, hhollow⟩
    have hq' := harmless_of_plain hparams' hb hs hv
    exact ⟨s, hs, n, hk, (mem_missingFor_of_some hk hv hq').mpr (.inl ⟨⟨hk, v, hv, hhollow⟩, rfl⟩)⟩

/-- A notice needs a message. -/
def notifier : Compiler where
  registry :=
    ⟨[("notify",
      { name := "notify", operations := [{ name := "send", required := ["message"] }] })]⟩

/-- A notice with this message. -/
def notice (message : Value) : Blueprint :=
  .plan { name := "notice", steps := [{ id := "n", driver := "notify", operation := "send",
                                        parameters := [("message", message)] }] }

/-- A greeting asks for the name in it, and the name settles it. -/
theorem missing_of_answers_greeting :
    let greeting := notice (.string "Hello \x7b\x7bname\x7d\x7d")
    Params.Plain [] ∧ greeting.Plain ∧
      Params.Answers [] (notifier.compile .zero ⟨0, 0⟩ greeting []).validation.missing
        [("name", "Ann")] ∧
      (notifier.compile .zero ⟨0, 0⟩ greeting []).validation.missing = ["name"] ∧
      "message" ∉
        (notifier.compile .zero ⟨0, 0⟩ greeting [("name", "Ann")]).validation.missing := by
  intro greeting
  have hplain : Params.Plain [] := fun n v hv => by cases hv
  have hgreeting : greeting.Plain := by
    intro s hs q hq d hd
    rw [List.mem_singleton.mp hs] at hq
    have hname : Placeholder.inMembers [("message", .string "Hello \x7b\x7bname\x7d\x7d")] =
        [⟨"name", none⟩] := by decide +kernel
    rw [hname, List.mem_singleton] at hq
    rw [hq] at hd
    cases hd
  have hmissing : (notifier.compile .zero ⟨0, 0⟩ greeting []).validation.missing = ["name"] := by
    decide +kernel
  have hanswers : Params.Answers [] (notifier.compile .zero ⟨0, 0⟩ greeting []).validation.missing
      [("name", "Ann")] := by
    rw [hmissing]
    exact answers_insert [] (by decide) (by decide) (by decide) (by decide)
  refine ⟨hplain, hgreeting, hanswers, hmissing, fun hagain => ?_⟩
  obtain ⟨s, hs, -, v, hv, hhollow⟩ := (missing_of_answers hplain hgreeting hanswers).mp hagain
  rw [List.mem_singleton.mp hs] at hv
  cases hv
  exact absurd hhollow (by decide +kernel)

/-- A notice with an empty message asks for the message, and asks again when it is supplied. -/
theorem missing_of_answers_blank :
    let blank := notice (.string "")
    (notifier.compile .zero ⟨0, 0⟩ blank []).validation.errors = [] ∧
      (notifier.compile .zero ⟨0, 0⟩ blank []).validation.missing = ["message"] ∧
      Params.Answers [] ["message"] [("message", "hello")] ∧
      (notifier.compile .zero ⟨0, 0⟩ blank [("message", "hello")]).validation.missing =
        ["message"] := by
  intro blank
  exact ⟨by decide +kernel, by decide +kernel,
    answers_insert [] (by decide) (by decide) (by decide) (by decide), by decide +kernel⟩

end Compiler

end Automation
