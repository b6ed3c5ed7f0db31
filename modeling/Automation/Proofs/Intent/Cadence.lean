import Automation.Conversation.Reply
import Automation.Proofs.Intent.Classification

/-!
# Cadences that are heard

A cadence heard in a message counts up to `2^64`, and a trigger is set to it through its number and
its unit. A trigger takes less: the milliseconds of an interval are a signed number of 64 bits. What
the patterns find carries the number and the unit of its cadence, and so does what a model tells,
unless the model names a cadence, a number or a unit of its own that the message does not.
-/

namespace Automation

open Json

private theorem IntervalUnit.ofText?_text (unit : IntervalUnit) :
    ofText? unit.text = some unit := by
  cases unit <;> decide

namespace Cadence

variable {c : Cadence}

/-- The configuration of a trigger for the cadence. -/
def config (c : Cadence) : Value :=
  .record [("interval", .nat c.every), ("unit", .string c.unit.text)]

/-- The number is one that can be heard. -/
def Counted (c : Cadence) : Prop := 1 ≤ c.every ∧ c.every < UInt64.size

private theorem counted_ofCount? {count : Nat} {word : List Char} (h : ofCount? count word = some c)
    (hcount : count < UInt64.size) : c.Counted := by
  unfold ofCount? at h
  dsimp only at h
  split_ifs at h with hzero _ _ _ _ hfits
  all_goals
    obtain rfl := Option.some.inj h
    have hpos : 1 ≤ count := Nat.one_le_iff_ne_zero.mpr (by simpa using hzero)
  · exact ⟨hpos, hcount⟩
  · exact ⟨hpos, hcount⟩
  · exact ⟨hpos, hcount⟩
  · exact ⟨Nat.le_trans hpos (Nat.le_mul_of_pos_right _ (by decide)), hfits⟩

private theorem lt_of_countAndWord? {phrase word : List Char} {count : Nat}
    (h : countAndWord? phrase = some (count, word)) : count < UInt64.size := by
  have hone : 1 < UInt64.size := by decide
  unfold countAndWord? at h
  split at h
  · split at h
    · obtain ⟨n, hn, heq⟩ := Option.map_eq_some_iff.mp h
      obtain ⟨rfl, -⟩ := Prod.mk.inj heq
      exact Text.lt_of_nat? hn
    · obtain ⟨rfl, -⟩ := Prod.mk.inj (Option.some.inj h)
      exact hone
  · obtain ⟨rfl, -⟩ := Prod.mk.inj (Option.some.inj h)
    exact hone

private theorem counted_of_ofText? {phrase : String} (h : ofText? phrase = some c) : c.Counted := by
  unfold ofText? at h
  dsimp only at h
  split_ifs at h
  -- the first three are the words for a fixed cadence
  · obtain rfl := Option.some.inj h
    exact ⟨by decide, by decide⟩
  · obtain rfl := Option.some.inj h
    exact ⟨by decide, by decide⟩
  · obtain rfl := Option.some.inj h
    exact ⟨by decide, by decide⟩
  · simp only [Option.bind_eq_bind, Option.bind_eq_some_iff] at h
    obtain ⟨rest, -, ⟨count, word⟩, hcount, hc⟩ := h
    exact counted_ofCount? hc (lt_of_countAndWord? hcount)

/-- The values that tell the number and the unit. -/
def parts (c : Cadence) : Entries String :=
  [("schedule_interval", toString c.every), ("schedule_unit", c.unit.text)]

private theorem ofConfig_config (h : 1 ≤ c.every) :
    Schedule.ofConfig c.config = Schedule.ofInterval c.every c.unit := by
  have hcron : c.config.member? "cron" = none := rfl
  have hinterval : c.config.member? "interval" = some (.nat c.every) := rfl
  have hunit : Schedule.unitOf c.config = .ok c.unit := by
    have hmember : c.config.member? "unit" = some (.string c.unit.text) := rfl
    rw [Schedule.unitOf, hmember]
    dsimp only
    rw [IntervalUnit.ofText?_text]
  have hevery : Schedule.positive? (.nat c.every) = some c.every := by
    simp [Schedule.positive?, Value.nat, Number.nat?, h]
  rw [Schedule.ofConfig, hcron, hinterval]
  dsimp only
  rw [hevery]
  dsimp only
  rw [hunit]
  rfl

end Cadence

namespace Intent

variable {values more : Entries String} {text : String}

/-- The cadence under `schedule`. -/
def cadence? (values : Entries String) : Option Cadence :=
  (Entries.get? values "schedule").bind Cadence.ofText?

/-- The number and the unit of a cadence are there with it. -/
def Cadenced (values : Entries String) : Prop :=
  ∀ c ∈ cadence? values, ∀ p ∈ c.parts, Entries.get? values p.1 = some p.2

private theorem cadence?_addCadence (values : Entries String) :
    cadence? (addCadence values) = cadence? values := by
  rw [cadence?, cadence?, addCadence]
  split
  · rw [Entries.get?_insert, if_neg (by decide), Entries.get?_insert, if_neg (by decide)]
  · rfl

private theorem get?_addCadence {c : Cadence} (h : cadence? values = some c) {p : String × String}
    (hp : p ∈ c.parts) : Entries.get? (addCadence values) p.1 = some p.2 := by
  rw [cadence?] at h
  rw [addCadence, h]
  dsimp only
  rcases List.mem_cons.mp hp with rfl | hp
  · have hother : "schedule_unit" ≠ "schedule_interval" := by decide
    rw [Entries.get?_insert, if_neg hother, Entries.get?_insert, if_pos rfl]
  · obtain rfl := List.mem_singleton.mp hp
    rw [Entries.get?_insert, if_pos rfl]

private theorem addCadence_of_none (h : cadence? values = none) : addCadence values = values := by
  rw [cadence?] at h
  rw [addCadence, h]

private theorem cadenced_addCadence (values : Entries String) : Cadenced (addCadence values) := by
  intro c hc p hp
  rw [cadence?_addCadence] at hc
  exact get?_addCadence hc hp

/-! ## What the patterns find -/

/-- What the patterns find in a text, before the cadence in it is read. -/
def found (text : String) : Entries String :=
  dropFalseProject (joinRecipients text (Extractor.firstValues Lexicon.extractors text))

private theorem extract_eq (text : String) : extract text = addCadence (found text) := rfl

private theorem entity_mem_patterns {e : Extractor} (h : e ∈ Lexicon.extractors) :
    e.entity ∈ Lexicon.patterns.map Prod.fst := by
  obtain ⟨⟨entity, pattern⟩, hmem, he⟩ := List.mem_filterMap.mp h
  obtain ⟨code, -, rfl⟩ := Option.map_eq_some_iff.mp he
  exact List.mem_map_of_mem hmem

private theorem mem_patterns_of_mem_found {p : String × String} (h : p ∈ found text) :
    p.1 ∈ Lexicon.patterns.map Prod.fst := by
  have hjoined : p ∈ joinRecipients text (Extractor.firstValues Lexicon.extractors text) := by
    unfold found dropFalseProject at h
    split at h
    · split at h
      · exact (List.mem_filter.mp h).1
      · exact h
    · exact h
  have hfirst : p ∈ Extractor.firstValues Lexicon.extractors text →
      p.1 ∈ Lexicon.patterns.map Prod.fst := by
    intro hp
    obtain ⟨e, he, hentity, -⟩ := Extractor.mem_firstValues hp
    exact hentity ▸ entity_mem_patterns he
  have hrecipient : "recipient" ∈ Lexicon.patterns.map Prod.fst := by decide
  unfold joinRecipients at hjoined
  dsimp only at hjoined
  split at hjoined
  · rcases Entries.mem_of_mem_insert hjoined with rfl | hp
    · exact hrecipient
    · exact hfirst hp
  · exact hfirst hjoined

private theorem get?_found {c : Cadence} {p : String × String} (hp : p ∈ c.parts) (text : String) :
    Entries.get? (found text) p.1 = none := by
  refine Entries.get?_eq_none_of_notMem fun hkey => ?_
  obtain ⟨q, hq, heq⟩ := List.mem_map.mp hkey
  have hmem := mem_patterns_of_mem_found hq
  rw [heq] at hmem
  have hkeys : p.1 ∈ ["schedule_interval", "schedule_unit"] :=
    List.mem_map_of_mem (f := Prod.fst) hp
  have hapart : ∀ key ∈ Lexicon.patterns.map Prod.fst,
      key ∉ ["schedule_interval", "schedule_unit"] := by decide
  exact hapart p.1 hmem hkeys

/-- The number and the unit that are heard are those of the cadence that is heard. -/
theorem get?_extract_eq_some_iff {c : Cadence} {p : String × String} (hp : p ∈ c.parts) :
    Entries.get? (extract text) p.1 = some p.2 ↔
      ∃ heard ∈ cadence? (extract text), p ∈ heard.parts := by
  rw [extract_eq, cadence?_addCadence]
  cases h : cadence? (found text) with
  | none =>
    rw [addCadence_of_none h, get?_found hp]
    simp
  | some heard =>
    rcases List.mem_cons.mp hp with rfl | hp
    · have hevery := get?_addCadence h List.mem_cons_self
      rw [hevery]
      simp [Cadence.parts, eq_comm]
    · obtain rfl := List.mem_singleton.mp hp
      have hunit := get?_addCadence h (List.mem_cons_of_mem _ (List.mem_singleton_self _))
      rw [hunit]
      simp [Cadence.parts, eq_comm]

private theorem cadenced_extract (text : String) : Cadenced (extract text) := cadenced_addCadence _

/-! ## What a model tells -/

private theorem get?_fillIn (values more : Entries String) (k : String) :
    Entries.get? (fillIn values more) k = (Entries.get? values k).or (Entries.get? more k) := by
  induction more generalizing values with
  | nil => simp [fillIn]
  | cons p more ih =>
    obtain ⟨name, v⟩ := p
    have hnext : fillIn values ((name, v) :: more) =
        fillIn (if Entries.has values name then values else Entries.insert values name v)
          more := rfl
    rw [hnext, ih, Entries.get?_cons]
    by_cases hname : name = k
    · subst hname
      rw [if_pos rfl]
      split
      · next hhas =>
        obtain ⟨u, hu⟩ := Option.isSome_iff_exists.mp hhas
        rw [hu, Option.some_or, Option.some_or]
      · next hhas =>
        have hnone : Entries.get? values name = none := by simpa [Entries.has] using hhas
        rw [Entries.get?_insert, if_pos rfl, hnone]
        rfl
    · rw [if_neg hname]
      split
      · rfl
      · rw [Entries.get?_insert, if_neg hname]

/-- The values of a judgement fit the cadence that counts, which is the judgement's own if it names
one: its number and its unit are told so, or they are heard in the text and not told. -/
def Judgement.FitsCadence (j : Judgement) (text : String) : Prop :=
  ∀ c ∈ ((Entries.get? j.told "schedule").or (Entries.get? (extract text) "schedule")).bind
      Cadence.ofText?,
    ∀ p ∈ c.parts, Entries.get? j.told p.1 = some p.2 ∨ Entries.get? j.told p.1 = none ∧
      ∃ heard ∈ cadence? (extract text), p ∈ heard.parts

private theorem cadenced_fillIn_iff (j : Judgement) (text : String) :
    Cadenced (fillIn j.told (extract text)) ↔ j.FitsCadence text := by
  unfold Cadenced cadence? Judgement.FitsCadence
  rw [get?_fillIn]
  refine forall₄_congr fun c _ p hp => ?_
  rw [get?_fillIn, Option.or_eq_some_iff, get?_extract_eq_some_iff hp]

/-- A judgement that says nothing of a cadence fits the one that is heard. -/
theorem Judgement.fitsCadence_of_silent {j : Judgement}
    (h : ∀ k ∈ ["schedule", "schedule_interval", "schedule_unit"], Entries.get? j.told k = none)
    (text : String) : j.FitsCadence text := by
  intro c hc p hp
  have hkey : p.1 ∈ ["schedule_interval", "schedule_unit"] :=
    List.mem_map_of_mem (f := Prod.fst) hp
  rw [h _ List.mem_cons_self, Option.none_or] at hc
  exact .inr ⟨h _ (List.mem_cons_of_mem _ hkey), c, hc, hp⟩

/-- An intent carries the number and the unit of its cadence, unless it goes back to a judgement
that does not fit its cadence. -/
theorem cadenced_classified_iff (model : Option (Model.Prompt → Model.Answer))
    (utterance : String) (history : List Model.Message) :
    Cadenced (classified model utterance history).extracted ↔
      ∀ ask j, model = some ask → Text.trim utterance ≠ "" →
        Judges (ask (prompt (Text.trim utterance) history)) j →
        j.FitsCadence (Text.trim utterance) := by
  have hextract := cadenced_extract (Text.trim utterance)
  by_cases hblank : Text.trim utterance = ""
  · rw [classified_of_blank hblank]
    refine ⟨fun _ _ _ _ h => absurd hblank h, fun _ => nofun⟩
  · cases model with
    | none =>
      rw [classified_none hblank, extracted_ofLexicon]
      exact ⟨fun _ _ _ => nofun, fun _ => hextract⟩
    | some ask =>
      rw [classified_some hblank]
      by_cases husable : Usable (ask (prompt (Text.trim utterance) history))
      · obtain ⟨j, hj⟩ := husable
        obtain ⟨-, hextracted, -⟩ := ofAnswer_of_judges hj (Text.trim utterance)
        rw [hextracted, cadenced_fillIn_iff]
        constructor
        · rintro hfits _ j' hask - hj'
          obtain rfl := Option.some.inj hask
          rwa [hj'.unique hj]
        · intro h
          exact h ask j rfl hblank hj
      · obtain ⟨reason, hanswer⟩ := ofAnswer_of_not_usable husable (Text.trim utterance)
        rw [hanswer, extracted_ofLexicon]
        refine ⟨?_, fun _ => hextract⟩
        rintro - _ j hask - hj
        obtain rfl := Option.some.inj hask
        exact absurd ⟨j, hj⟩ husable

/-- An answer that names a cadence, as the instructions ask for. -/
def cadenceReply : String :=
  "\x7b\"is_automation\": true, \"category\": \"scheduling\", " ++
    "\"extracted_parameters\": \x7b\"schedule\": \"every 5 minutes\"\x7d\x7d"

/-- The cadence that the model names comes without its number and its unit. -/
theorem extracted_cadenceReply :
    (classified (some fun _ => .ok cadenceReply) "Back up" []).extracted =
      [("schedule", "every 5 minutes")] ∧
    Cadence.ofText? "every 5 minutes" = some ⟨5, .minutes⟩ ∧
    ¬ Cadenced (classified (some fun _ => .ok cadenceReply) "Back up" []).extracted := by
  have htext : Text.trim "Back up" = "Back up" := by decide +kernel
  have hheard : extract "Back up" = [] := by decide +kernel
  have hread : (Judgement.decode.ofText? (Model.stripFences cadenceReply)).any (fun j =>
      j.isAutomation.isSome && j.category.isSome &&
        j.told == [("schedule", "every 5 minutes")]) = true := by
    decide +kernel
  obtain ⟨j, hj, hjudges⟩ := (Option.any_eq_true _ _).mp hread
  simp only [Bool.and_eq_true, beq_iff_eq] at hjudges
  obtain ⟨⟨hautomation, hcategory⟩, htold⟩ := hjudges
  have hextracted := (ofAnswer_of_judges ⟨_, rfl, hj, hautomation, hcategory⟩ "Back up").2.1
  have hlone : (classified (some fun _ => .ok cadenceReply) "Back up" []).extracted =
      [("schedule", "every 5 minutes")] := by
    rw [classified_some (by rw [htext]; decide), htext, hextracted, htold, hheard]
    rfl
  have hcadence : Cadence.ofText? "every 5 minutes" = some ⟨5, .minutes⟩ := by decide +kernel
  refine ⟨hlone, hcadence, fun hcadenced => ?_⟩
  rw [hlone] at hcadenced
  have hevery := hcadenced ⟨5, .minutes⟩ hcadence ("schedule_interval", "5") List.mem_cons_self
  exact absurd hevery (by decide)

/-! ## Triggers -/

/-- The trigger for a cadence that was heard is set to this number and unit. -/
theorem scheduleConfig?_addCadence {c : Cadence} (h : cadence? values = some c)
    (hc : c.Counted) : Reply.scheduleConfig? (addCadence values) = some c.config := by
  have hevery := get?_addCadence h (List.mem_cons_self (l := c.parts.tail))
  have hunit := get?_addCadence h (List.mem_cons_of_mem _ (List.mem_singleton_self _))
  rw [Reply.scheduleConfig?, hevery, hunit]
  dsimp only [Option.bind_eq_bind, Option.bind_some]
  rw [Text.nat?_toString hc.2]
  rfl

end Intent

namespace Cadence

/-- A trigger takes a cadence that was heard just if its milliseconds are a signed number of 64
bits; else the trigger is refused. -/
theorem ofConfig_of_heard {phrase : String} {c : Cadence} (h : ofText? phrase = some c) :
    (∀ values, Entries.get? values "schedule" = some phrase →
      Reply.scheduleConfig? (Intent.addCadence values) = some c.config) ∧
    Schedule.ofConfig c.config =
      if c.every * c.unit.seconds * 1000 < 2 ^ 63 then .ok (.interval c.every c.unit)
      else .error (.tooLarge c.every) := by
  have hcounted := counted_of_ofText? h
  constructor
  · intro values hphrase
    refine Intent.scheduleConfig?_addCadence ?_ hcounted
    rw [Intent.cadence?, hphrase, Option.bind_some, h]
  · have hlimit : c.every * c.unit.seconds ≤ Schedule.maxSeconds ↔
        c.every * c.unit.seconds * 1000 < 2 ^ 63 := by
      rw [Schedule.maxSeconds, Nat.le_div_iff_mul_le (by decide)]
      exact Nat.le_sub_one_iff_lt (by decide)
    rw [ofConfig_config hcounted.1, Schedule.ofInterval]
    simp only [hlimit]

theorem ofConfig_of_heard_days :
    ofText? "every 106751991167 days" = some ⟨106751991167, .days⟩ ∧
    Schedule.ofConfig (config ⟨106751991167, .days⟩) =
      .ok (.interval 106751991167 .days) := by
  have hheard : ofText? "every 106751991167 days" = some ⟨106751991167, .days⟩ := by
    decide +kernel
  exact ⟨hheard, (ofConfig_of_heard hheard).2.trans (if_pos (by decide))⟩

/-- A day more is heard too, and refused. -/
theorem ofConfig_refuses_heard :
    ofText? "every 106751991168 days" = some ⟨106751991168, .days⟩ ∧
    Schedule.ofConfig (config ⟨106751991168, .days⟩) = .error (.tooLarge 106751991168) := by
  have hrefused : ¬ 106751991168 * IntervalUnit.days.seconds ≤ Schedule.maxSeconds := by decide
  refine ⟨by decide +kernel, ?_⟩
  rw [ofConfig_config (by decide), Schedule.ofInterval, if_neg hrefused]

end Cadence

end Automation
