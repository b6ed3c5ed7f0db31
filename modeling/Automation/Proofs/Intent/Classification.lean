import Automation.Proofs.Intent.Extraction
import Automation.Proofs.Json.Decoding

/-!
# Classified messages

Whoever classifies a message, what comes out is well formed: what is missing is asked for once and
is not there, every value counts, and a message that asks for nothing to be done misses nothing.
A model is passed over just if its answer cannot be used, and then all but the confidence and the
reason is as without a model. An answer can be used if it is JSON of a certain form.
-/

namespace Automation.Intent

open Json

/-- What is missing, what is there and whether something is to be done fit together. -/
structure WellFormed (i : Intent) : Prop where
  nodup : i.missing.Nodup
  disjoint : i.missing.Disjoint (Entries.keys i.extracted)
  filled : Filled i.extracted
  idle : i.isAutomation = false → i.missing = []

/-! ## Missing values -/

private theorem missingFor_eq (category : Category) (values : Entries String)
    (reported : List String) : missingFor category values reported =
      ((Lexicon.expected category ++ reported).filter fun k => !Entries.has values k).foldl
        (fun seen k => if seen.contains k then seen else seen ++ [k]) [] := by
  rw [missingFor, List.foldl_filter]
  congr
  funext missing k
  cases Entries.has values k <;> simp

private theorem nodup_missingFor (category : Category) (values : Entries String)
    (reported : List String) : (missingFor category values reported).Nodup := by
  rw [missingFor_eq]
  exact Text.nodup_foldl_distinct List.nodup_nil

private theorem mem_missingFor {category : Category} {values : Entries String}
    {reported : List String} {k : String} : k ∈ missingFor category values reported ↔
      (k ∈ Lexicon.expected category ∨ k ∈ reported) ∧ k ∉ Entries.keys values := by
  rw [missingFor_eq, Text.mem_foldl_distinct]
  simp [Entries.has_eq_false_iff, or_and_right]

private theorem disjoint_missingFor (category : Category) (values : Entries String)
    (reported : List String) :
    (missingFor category values reported).Disjoint (Entries.keys values) :=
  fun _ hmissing => (mem_missingFor.mp hmissing).2

/-! ## Intents -/

private theorem wellFormed_conversational (text : String) : (conversational text).WellFormed :=
  ⟨List.nodup_nil, List.disjoint_nil_left _, nofun, fun _ => rfl⟩

private theorem wellFormed_ofLexicon (text : String) (reason : Option String) :
    (ofLexicon text reason).WellFormed where
  nodup := nodup_missingFor _ _ _
  disjoint := disjoint_missingFor _ _ _
  filled := filled_extract text
  idle := by
    intro hidle
    have hother : (route text).1 = .other := by simpa [ofLexicon] using hidle
    show missingFor (route text).1 (extract text) [] = []
    rw [hother]
    rfl

private theorem ofLexicon_eq (text : String) (reason : Option String) :
    ofLexicon text reason = { ofLexicon text none with
      confidence := (ofLexicon text reason).confidence, fallbackReason := reason } := by
  -- the route is made a variable, so that the router is not run on the text
  unfold ofLexicon
  generalize route text = found
  obtain ⟨category, words⟩ := found
  dsimp only

private theorem fallbackReason_ofLexicon (text : String) (reason : Option String) :
    (ofLexicon text reason).fallbackReason = reason := by
  rw [ofLexicon_eq]

theorem extracted_ofLexicon (text : String) (reason : Option String) :
    (ofLexicon text reason).extracted = extract text := by
  unfold ofLexicon
  generalize route text = found
  obtain ⟨category, words⟩ := found
  rfl

namespace Judgement

/-- The values that a model names. -/
def told (j : Judgement) : Entries String :=
  j.extracted.filterMap fun (k, v) => (paramOf? v).map fun s => (k, s)

private theorem filled_told (j : Judgement) : Filled j.told := by
  intro p hp
  obtain ⟨⟨k, v⟩, -, hpair⟩ := List.mem_filterMap.mp hp
  obtain ⟨s, hs, rfl⟩ := Option.map_eq_some_iff.mp hpair
  exact trimmed_paramOf? hs

end Judgement

/-- The answer is a judgement: it says whether the message is a request, and of which category. -/
def Judges (answer : Model.Answer) (j : Judgement) : Prop :=
  ∃ text, answer = .ok text ∧ Judgement.decode.ofText? (Model.stripFences text) = some j ∧
    j.isAutomation.isSome ∧ j.category.isSome

def Usable (answer : Model.Answer) : Prop := ∃ j, Judges answer j

/-! ## Answers that can be used -/

namespace Judgement

/-- The names of the fields, in the order of an array of them. -/
def names : List String :=
  ["is_automation", "category", "confidence", "extracted_parameters", "missing_parameters",
    "complexity"]

/-- The record of an answer that can be used. Two fields are there, a boolean and a string; every
other one is of its type, and an object may leave it out. -/
structure Written (r : Record) : Prop where
  isAutomation : ∃ b, r.fields.lookup "is_automation" = some (.bool b)
  category : ∃ c, r.fields.lookup "category" = some (.string (some c))
  confidence : ∀ s, r.fields.lookup "confidence" = some s → s = .null ∨ ∃ n, s = .number (some n)
  extracted : ∀ s, r.fields.lookup "extracted_parameters" = some s →
    (Decoder.entries Decoder.value r.depth s).isSome
  missing : ∀ s, r.fields.lookup "missing_parameters" = some s →
    (Decoder.list Decoder.string r.depth s).isSome
  complexity : ∀ s, r.fields.lookup "complexity" = some s → s = .null ∨ ∃ c, s = .string (some c)
  listed : r.listed = true →
    (r.fields.lookup "confidence").isSome ∧ (r.fields.lookup "complexity").isSome

/-- The judgement is read field by field. -/
structure Reads (r : Record) (j : Judgement) : Prop where
  isAutomation : r.optional "is_automation" Decoder.bool = some j.isAutomation
  category : r.optional "category" Decoder.string = some j.category
  confidence : r.optional "confidence" Decoder.float = some j.confidence
  extracted : r.orElse "extracted_parameters" (Decoder.entries Decoder.value) [] = some j.extracted
  missing : r.orElse "missing_parameters" (Decoder.list Decoder.string) [] = some j.missing
  complexity : r.optional "complexity" Decoder.string = some j.complexity

private theorem decode_eq_some_iff {depth : Nat} {s : Source} {j : Judgement} :
    decode depth s = some j ↔ ∃ r, Record.ofSource? names [] depth s = some r ∧ Reads r j := by
  simp only [decode, Decoder.record, Option.bind_eq_bind, Option.bind_eq_some_iff,
    Option.pure_def, Option.some.injEq]
  constructor
  · rintro ⟨r, hr, _, h₁, _, h₂, _, h₃, _, h₄, _, h₅, _, h₆, rfl⟩
    exact ⟨r, hr, h₁, h₂, h₃, h₄, h₅, h₆⟩
  · rintro ⟨r, hr, h₁, h₂, h₃, h₄, h₅, h₆⟩
    exact ⟨r, hr, _, h₁, _, h₂, _, h₃, _, h₄, _, h₅, _, h₆, rfl⟩

private theorem Reads.written {r : Record} {j : Judgement} (h : Reads r j)
    (hautomation : j.isAutomation.isSome) (hcategory : j.category.isSome) : Written r := by
  obtain ⟨b, hb⟩ := Option.isSome_iff_exists.mp hautomation
  obtain ⟨c, hc⟩ := Option.isSome_iff_exists.mp hcategory
  obtain ⟨_, hboolean, -, hbool⟩ := Record.optional_eq_some_some_iff.mp (hb ▸ h.isAutomation)
  obtain ⟨_, hword, -, hstring⟩ := Record.optional_eq_some_some_iff.mp (hc ▸ h.category)
  obtain rfl := Decoder.bool_eq_some_iff.mp hbool
  obtain rfl := Decoder.string_eq_some_iff.mp hstring
  have hconfidence := Record.optional_isSome_iff.mp (Option.isSome_of_eq_some h.confidence)
  have hcomplexity := Record.optional_isSome_iff.mp (Option.isSome_of_eq_some h.complexity)
  simp only [Decoder.float_isSome_iff] at hconfidence
  simp only [Decoder.string_isSome_iff] at hcomplexity
  exact {
    isAutomation := ⟨b, hboolean⟩
    category := ⟨c, hword⟩
    confidence := hconfidence.1
    extracted := Record.orElse_isSome_iff.mp (Option.isSome_of_eq_some h.extracted)
    missing := Record.orElse_isSome_iff.mp (Option.isSome_of_eq_some h.missing)
    complexity := hcomplexity.1
    listed := fun hlisted => ⟨hconfidence.2 hlisted, hcomplexity.2 hlisted⟩ }

private theorem Written.exists_reads {r : Record} (h : Written r) :
    ∃ j, Reads r j ∧ j.isAutomation.isSome ∧ j.category.isSome := by
  obtain ⟨b, hb⟩ := h.isAutomation
  obtain ⟨c, hc⟩ := h.category
  have hautomation : r.optional "is_automation" Decoder.bool = some (some b) :=
    Record.optional_eq_some_some_iff.mpr ⟨_, hb, nofun, rfl⟩
  have hcategory : r.optional "category" Decoder.string = some (some c) :=
    Record.optional_eq_some_some_iff.mpr ⟨_, hc, nofun, rfl⟩
  obtain ⟨confidence, hconfidence⟩ := Option.isSome_iff_exists.mp <|
    Record.optional_isSome_iff (d := Decoder.float).mpr
      ⟨by simpa only [Decoder.float_isSome_iff] using h.confidence, fun hr => (h.listed hr).1⟩
  obtain ⟨complexity, hcomplexity⟩ := Option.isSome_iff_exists.mp <|
    Record.optional_isSome_iff (d := Decoder.string).mpr
      ⟨by simpa only [Decoder.string_isSome_iff] using h.complexity, fun hr => (h.listed hr).2⟩
  obtain ⟨extracted, hextracted⟩ := Option.isSome_iff_exists.mp
    (Record.orElse_isSome_iff.mpr h.extracted)
  obtain ⟨missing, hmissing⟩ := Option.isSome_iff_exists.mp
    (Record.orElse_isSome_iff.mpr h.missing)
  exact ⟨⟨b, c, confidence, extracted, missing, complexity⟩,
    ⟨hautomation, hcategory, hconfidence, hextracted, hmissing, hcomplexity⟩, rfl, rfl⟩

end Judgement

/-- An answer can be used just if, without a fence around it, it is JSON of such a record. -/
theorem usable_iff {reply : String} : Usable (.ok reply) ↔ ∃ s r,
    Source.read? (Model.stripFences reply) = some s ∧
      Record.ofSource? Judgement.names [] maxDepth s = some r ∧ Judgement.Written r := by
  constructor
  · rintro ⟨j, text, htext, hdecode, hautomation, hcategory⟩
    obtain rfl := Except.ok.inj htext
    obtain ⟨s, hs, hj⟩ := Decoder.ofText?_eq_some_iff.mp hdecode
    obtain ⟨r, hr, hreads⟩ := Judgement.decode_eq_some_iff.mp hj
    exact ⟨s, r, hs, hr, hreads.written hautomation hcategory⟩
  · rintro ⟨s, r, hs, hr, hwritten⟩
    obtain ⟨j, hreads, hj⟩ := hwritten.exists_reads
    have hdecode := Judgement.decode_eq_some_iff.mpr ⟨r, hr, hreads⟩
    exact ⟨j, reply, rfl, Decoder.ofText?_eq_some_iff.mpr ⟨s, hs, hdecode⟩, hj⟩

variable {answer : Model.Answer} {text : String}

/-! ## Intents of answers -/

private theorem ofJudgement?_eq {j : Judgement} {isAutomation : Bool} {word : String}
    (hautomation : j.isAutomation = some isAutomation) (hcategory : j.category = some word)
    (text : String) : ofJudgement? text j = some {
      isAutomation
      category := Category.ofText word
      confidence := clamp (j.confidence.getD 0.5)
      extracted := fillIn j.told (extract text)
      missing := if isAutomation then
        missingFor (Category.ofText word) (fillIn j.told (extract text)) j.missing else []
      text
      complexity := (j.complexity.bind Complexity.ofText?).getD (Complexity.ofConnectors text)
      source := .model
      fallbackReason := none } := by
  simp only [ofJudgement?, hautomation, hcategory, Option.bind_eq_bind, Option.bind_some]
  rfl

/-- An intent by a judgement takes the judgement's values before those of the text. -/
theorem ofJudgement?_spec {j : Judgement} (hautomation : j.isAutomation.isSome)
    (hcategory : j.category.isSome) (text : String) : ∃ i, ofJudgement? text j = some i ∧
      i.WellFormed ∧ i.extracted = fillIn j.told (extract text) ∧ i.fallbackReason = none := by
  obtain ⟨isAutomation, hautomation⟩ := Option.isSome_iff_exists.mp hautomation
  obtain ⟨word, hcategory⟩ := Option.isSome_iff_exists.mp hcategory
  refine ⟨_, ofJudgement?_eq hautomation hcategory text, ⟨?_, ?_, ?_, ?_⟩, rfl, rfl⟩
  · dsimp only
    split
    · exact nodup_missingFor _ _ _
    · exact List.nodup_nil
  · dsimp only
    split
    · exact disjoint_missingFor _ _ _
    · exact List.disjoint_nil_left _
  · exact j.filled_told.fillIn (filled_extract text)
  · intro hidle
    exact if_neg (Bool.eq_false_iff.mp hidle)

private theorem isSome_of_ofJudgement? {j : Judgement} {i : Intent}
    (h : ofJudgement? text j = some i) : j.isAutomation.isSome ∧ j.category.isSome := by
  simp only [ofJudgement?, Option.bind_eq_bind, Option.bind_eq_some_iff] at h
  obtain ⟨isAutomation, hautomation, word, hcategory, -⟩ := h
  exact ⟨Option.isSome_of_eq_some hautomation, Option.isSome_of_eq_some hcategory⟩

theorem Judges.unique {j j' : Judgement} (h : Judges answer j) (h' : Judges answer j') :
    j = j' := by
  obtain ⟨reply, rfl, hdecode, -⟩ := h
  obtain ⟨reply', hreply, hdecode', -⟩ := h'
  obtain rfl := Except.ok.inj hreply
  exact Option.some.inj (hdecode.symm.trans hdecode')

private theorem ofAnswer_error (text : String) (e : Model.Error) :
    ofAnswer text (.error e) = ofLexicon text (some e.message) := rfl

private theorem ofAnswer_ok (text reply : String) : ofAnswer text (.ok reply) =
    ((Judgement.decode.ofText? (Model.stripFences reply)).bind (ofJudgement? text)).getD
      (ofLexicon text (some "malformed model output")) := by
  delta ofAnswer
  dsimp only
  generalize (Judgement.decode.ofText? (Model.stripFences reply)).bind (ofJudgement? text) = read
  cases read <;> rfl

theorem ofAnswer_of_judges {j : Judgement} (h : Judges answer j) (text : String) :
    (ofAnswer text answer).WellFormed ∧
      (ofAnswer text answer).extracted = fillIn j.told (extract text) ∧
      (ofAnswer text answer).fallbackReason = none := by
  obtain ⟨reply, rfl, hdecode, hautomation, hcategory⟩ := h
  obtain ⟨i, hi, hspec⟩ := ofJudgement?_spec hautomation hcategory text
  rw [ofAnswer_ok, hdecode, Option.bind_some, hi, Option.getD_some]
  exact hspec

theorem ofAnswer_of_not_usable (h : ¬ Usable answer) (text : String) :
    ∃ reason, ofAnswer text answer = ofLexicon text (some reason) := by
  cases answer with
  | error e => exact ⟨e.message, ofAnswer_error text e⟩
  | ok reply =>
    refine ⟨"malformed model output", ?_⟩
    have hnone : (Judgement.decode.ofText? (Model.stripFences reply)).bind (ofJudgement? text) =
        none := by
      by_contra hsome
      obtain ⟨i, hi⟩ := Option.ne_none_iff_exists'.mp hsome
      obtain ⟨j, hdecode, hj⟩ := Option.bind_eq_some_iff.mp hi
      exact h ⟨j, reply, rfl, hdecode, isSome_of_ofJudgement? hj⟩
    rw [ofAnswer_ok, hnone, Option.getD_none]

/-! ## Messages -/

/-- The intent of a message, given the recent turns, when this is how the model answers. -/
def classified (model : Option (Model.Prompt → Model.Answer)) (utterance : String)
    (history : List Model.Message) : Intent :=
  ((classify model.isSome utterance history).run (fun p s =>
    (model.elim (.error (.noModel "none")) fun answer => answer p, s)) ()).1

variable {utterance : String} {history : List Model.Message}

theorem classified_of_blank (h : Text.trim utterance = "")
    (model : Option (Model.Prompt → Model.Answer)) (history : List Model.Message) :
    classified model utterance history = conversational (Text.trim utterance) := by
  rw [classified, classify, if_pos (by rw [h]; rfl)]
  rfl

theorem classified_none (h : Text.trim utterance ≠ "") (history : List Model.Message) :
    classified none utterance history = ofLexicon (Text.trim utterance) := by
  rw [classified, classify, if_neg (by simpa using h)]
  rfl

theorem classified_some (h : Text.trim utterance ≠ "") (ask : Model.Prompt → Model.Answer)
    (history : List Model.Message) : classified (some ask) utterance history =
      ofAnswer (Text.trim utterance) (ask (prompt (Text.trim utterance) history)) := by
  rw [classified, classify, if_neg (by simpa using h)]
  rfl

/-- Every message is classified, whatever the model does. An intent gives a reason just if a model
was asked and its answer could not be used; it is then, apart from the confidence and the reason,
the intent without a model. -/
theorem classified_wellFormed (model : Option (Model.Prompt → Model.Answer)) (utterance : String)
    (history : List Model.Message) :
    (classified model utterance history).WellFormed ∧
      ((classified model utterance history).fallbackReason.isSome ↔ Text.trim utterance ≠ "" ∧
        ∃ ask, model = some ask ∧ ¬ Usable (ask (prompt (Text.trim utterance) history))) ∧
      ((classified model utterance history).fallbackReason.isSome →
        classified model utterance history = { classified none utterance history with
          confidence := (classified model utterance history).confidence
          fallbackReason := (classified model utterance history).fallbackReason }) := by
  by_cases hblank : Text.trim utterance = ""
  · rw [classified_of_blank hblank]
    have hreason : ¬ (conversational (Text.trim utterance)).fallbackReason.isSome :=
      Bool.false_ne_true
    refine ⟨wellFormed_conversational _, ?_, fun h => absurd h hreason⟩
    exact ⟨fun h => absurd h hreason, fun h => absurd hblank h.1⟩
  · cases model with
    | none =>
      rw [classified_none hblank]
      have hreason : ¬ (ofLexicon (Text.trim utterance)).fallbackReason.isSome := by
        rw [fallbackReason_ofLexicon]
        exact Bool.false_ne_true
      refine ⟨wellFormed_ofLexicon _ _, ?_, fun h => absurd h hreason⟩
      exact ⟨fun h => absurd h hreason, nofun⟩
    | some ask =>
      rw [classified_some hblank, classified_none hblank]
      by_cases husable : Usable (ask (prompt (Text.trim utterance) history))
      · obtain ⟨j, hj⟩ := husable
        obtain ⟨hformed, -, hreason⟩ := ofAnswer_of_judges hj (Text.trim utterance)
        rw [hreason]
        refine ⟨hformed, ⟨nofun, ?_⟩, nofun⟩
        rintro ⟨-, _, hask, hnot⟩
        obtain rfl := Option.some.inj hask
        exact absurd ⟨j, hj⟩ hnot
      · obtain ⟨reason, hanswer⟩ := ofAnswer_of_not_usable husable (Text.trim utterance)
        rw [hanswer, fallbackReason_ofLexicon]
        refine ⟨wellFormed_ofLexicon _ _, ?_, fun _ => ofLexicon_eq _ _⟩
        exact ⟨fun _ => ⟨hblank, ask, rfl, husable⟩, fun _ => rfl⟩

def message : String := "Email ann@example.com"

/-- A model that cannot be reached. -/
def silent : Model.Prompt → Model.Answer := fun _ => .error (.requestFailed "timeout")

/-- A model that has the right form and a word in place of a boolean. -/
def misspoken : Model.Prompt → Model.Answer := fun _ =>
  .ok "\x7b\"is_automation\": \"yes\", \"category\": \"tasks\"\x7d"

/-- A model that takes the message for a task and misses its name. -/
def outspoken : Model.Prompt → Model.Answer := fun _ =>
  .ok ("\x7b\"is_automation\": true, \"category\": \"tasks\", " ++
    "\"missing_parameters\": [\"name\"]\x7d")

private theorem not_usable_silent (p : Model.Prompt) : ¬ Usable (silent p) := by
  rintro ⟨j, text, htext, -⟩
  cases htext

private theorem not_usable_misspoken (p : Model.Prompt) : ¬ Usable (misspoken p) := by
  have hnone : Judgement.decode.ofText? (Model.stripFences
      "\x7b\"is_automation\": \"yes\", \"category\": \"tasks\"\x7d") = none := by
    rw [← Option.isNone_iff_eq_none]
    decide +kernel
  rintro ⟨j, text, htext, hdecode, -⟩
  obtain rfl := Except.ok.inj htext
  cases hnone.symm.trans hdecode

/-- An answer that can be used is taken, although it misses what is expected anyhow. One that cannot
be used and one that does not come are passed over. -/
theorem classified_wellFormed_answers :
    (∀ ask ∈ [silent, misspoken], (classified (some ask) message []).fallbackReason.isSome ∧
      classified (some ask) message [] = { classified none message [] with
        confidence := (classified (some ask) message []).confidence
        fallbackReason := (classified (some ask) message []).fallbackReason }) ∧
    (classified (some outspoken) message []).WellFormed ∧
    (classified (some outspoken) message []).fallbackReason = none ∧
    (classified (some outspoken) message []).category = .tasks := by
  have hpassed (ask : Model.Prompt → Model.Answer) (hask : ∀ p, ¬ Usable (ask p)) :
      (classified (some ask) message []).fallbackReason.isSome ∧
        classified (some ask) message [] = { classified none message [] with
          confidence := (classified (some ask) message []).confidence
          fallbackReason := (classified (some ask) message []).fallbackReason } := by
    obtain ⟨-, hreason, halike⟩ := classified_wellFormed (some ask) message []
    have hsome := hreason.mpr ⟨by decide +kernel, ask, rfl, hask _⟩
    exact ⟨hsome, halike hsome⟩
  refine ⟨List.forall_mem_cons.mpr ⟨hpassed silent not_usable_silent,
    List.forall_mem_singleton.mpr (hpassed misspoken not_usable_misspoken)⟩, ?_⟩
  obtain ⟨hformed, -⟩ := classified_wellFormed (some outspoken) message []
  exact ⟨hformed, by decide +kernel, by decide +kernel⟩

end Automation.Intent
