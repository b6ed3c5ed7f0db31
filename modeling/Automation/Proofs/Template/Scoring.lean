import Automation.Proofs.Decimal.Rounding
import Automation.Proofs.Template.Loading
import Automation.Proofs.Text.Trimming
import Automation.Template.Match
import Mathlib.Algebra.Order.Field.Rat
import Mathlib.Data.Finset.Card
import Mathlib.Tactic.IntervalCases
import Mathlib.Tactic.Linarith
import Mathlib.Tactic.NormNum
import Mathlib.Tactic.Positivity

/-!
# Exact scores

By the weights as exact numbers a score is at least zero and at most nine tenths of the confidence,
and it does not fall when all keywords found before are found again. A keyword counts once however
often and in whatever case a catalog file spells it. The weights in use are the exact ones rounded
to binary64 numbers; what is calculated with them is rounded again, and that is not covered here.
-/

namespace Automation

/-! ## Weights -/

namespace ScoreWeights

private theorem keywords_mono {m n : Nat} (h : m ≤ n) : exact.keywords m ≤ exact.keywords n := by
  have hcast : ((min m 3 : Nat) : ℚ) ≤ (min n 3 : Nat) := Nat.cast_le.mpr (by omega)
  exact div_le_div_of_nonneg_right hcast (by norm_num)

private theorem keywords_lt {m n : Nat} (hfew : m < 3) (h : m < n) :
    exact.keywords m < exact.keywords n := by
  have hcast : ((min m 3 : Nat) : ℚ) < (min n 3 : Nat) := Nat.cast_lt.mpr (by omega)
  exact div_lt_div_of_pos_right hcast (by norm_num)

private theorem keywords_of_le {n : Nat} (h : 3 ≤ n) : exact.keywords n = 3 / 10 := by
  change ((min n 3 : Nat) : ℚ) / 10 = 3 / 10
  rw [Nat.min_eq_right h, Nat.cast_ofNat]

private theorem keywords_bounds (n : Nat) : 0 ≤ exact.keywords n ∧ exact.keywords n ≤ 3 / 10 := by
  constructor
  · exact div_nonneg (Nat.cast_nonneg _) (by norm_num)
  · rw [← keywords_of_le (Nat.le_add_left 3 n)]
    exact keywords_mono (Nat.le_add_right n 3)

def map {α β : Type} (f : α → β) (w : ScoreWeights α) : ScoreWeights β where
  zero := f w.zero
  category := f w.category
  keywords n := f (w.keywords n)
  sameComplexity := f w.sameComplexity
  nextComplexity := f w.nextComplexity

/-- A quotient in binary64 numbers. It is rounded once if numerator and denominator are exact. -/
def rounded (q : ℚ) : Float := Float.ofInt q.num / Float.ofNat q.den

open Decimal Float.Model in
/-- A tenth of eight or more is not below three tenths. -/
theorem not_tenth_lt {x : Float} (h : AtLeast (-49) x.toModel.unpack) : ¬ 0.1 * x < 0.3 := by
  have hunit : (0.1 : Float).toModel.unpack =
      .finite .positive 7205759403792794 (-56) (by decide) := rfl
  have hbound : (0.3 : Float).toModel.unpack =
      .finite .positive 5404319552844595 (-54) (by decide) := rfl
  have hmul : (0.1 * x).toModel =
      .pack (.mul .binary64 (0.1 : Float).toModel.unpack x.toModel.unpack) := rfl
  rw [lt_iff_unpack, hmul, hunit, hbound]
  rcases h with h | ⟨m, e, hm, h, ⟨hdigits, -, hfull⟩, he⟩
  · rw [h]
    decide
  · obtain ⟨r, e', hr, hround, hcanonical, he'⟩ := mul_full (m := 7205759403792794) (n := m)
      (e := -56) (f := e) (by decide) hm (by decide) (by omega) (by omega)
    rw [h, hround, unpack_pack _ hr hcanonical]
    by_cases hsmall : e' ≤ 971
    · rw [if_pos hsmall, finite_lt_iff]
      omega
    · rw [if_neg hsmall]
      decide

private theorem not_tenths_lt {n : Nat} (h : 3 ≤ n) : ¬ 0.1 * Float.ofNat n < 0.3 := by
  rcases Nat.lt_or_ge n 8 with hfew | hmany
  · interval_cases n <;> decide
  · have hlog : 3 ≤ n.log2 := (Nat.le_log2 (by omega)).mpr hmany
    exact not_tenth_lt ((Decimal.atLeast_ofNat (by omega)).mono (by omega))

/-- The weights in use are the exact ones, rounded. -/
theorem standard_eq : standard = exact.map rounded := by
  have hkeywords : standard.keywords = fun n => rounded (exact.keywords n) := by
    funext n
    rcases Nat.lt_or_ge n 3 with hfew | hmany
    · interval_cases n <;> decide +kernel
    · have hthree : (0.3 : Float) = rounded (3 / 10) := by decide +kernel
      rw [keywords_of_le hmany, ← hthree]
      exact if_neg (not_tenths_lt hmany)
  have hzero : standard.zero = rounded exact.zero := by decide +kernel
  have hcategory : standard.category = rounded exact.category := by decide +kernel
  have hsame : standard.sameComplexity = rounded exact.sameComplexity := by decide +kernel
  have hnext : standard.nextComplexity = rounded exact.nextComplexity := by decide +kernel
  rw [map, ← hkeywords, ← hzero, ← hcategory, ← hsame, ← hnext]

end ScoreWeights

namespace Template

variable {t : Template} {intent : Intent} {confidence : ℚ} {keywords : List String}

/-- How a keyword is spelled: trimmed and in lower case. -/
def spelling (keyword : String) : String := Text.lower (Text.trim keyword)

/-- The keyword is found in the message. -/
def IsIn (keyword message : String) : Prop :=
  let text := Text.lower message
  isFound text (tokens text) keyword = true

instance (keyword message : String) : Decidable (IsIn keyword message) :=
  inferInstanceAs (Decidable (_ = true))

/-- The score by exact weights against an intent of this confidence. -/
def exactScore (t : Template) (intent : Intent) (confidence : ℚ) : ℚ :=
  let text := Text.lower intent.text
  t.weighted .exact intent.category intent.complexity confidence text (tokens text)

/-! ## Keywords -/

private theorem spelling_spelling (keyword : String) :
    spelling (spelling keyword) = spelling keyword :=
  Text.lower_trim_lower_trim keyword

private theorem normalizeKeywords_eq (keywords : List String) : normalizeKeywords keywords =
    ((keywords.map spelling).filter (!·.isEmpty)).foldl
      (fun seen k => if seen.contains k then seen else seen ++ [k]) [] := by
  rw [List.foldl_filter, List.foldl_map, normalizeKeywords]
  apply List.foldl_ext
  intro seen raw _
  change (if (spelling raw).isEmpty || seen.contains (spelling raw) then seen
    else seen ++ [spelling raw]) = _
  cases (spelling raw).isEmpty <;> rfl

private theorem mem_normalizeKeywords {k : String} :
    k ∈ normalizeKeywords keywords ↔ k ∈ keywords.map spelling ∧ k ≠ "" := by
  rw [normalizeKeywords_eq, Text.mem_foldl_distinct]
  simp [List.mem_filter]

private theorem nodup_normalizeKeywords (keywords : List String) :
    (normalizeKeywords keywords).Nodup := by
  rw [normalizeKeywords_eq]
  exact Text.nodup_foldl_distinct List.nodup_nil

private theorem map_spelling_kept (t : Template) :
    t.kept.keywords.map spelling = t.kept.keywords := by
  have hself : ∀ k ∈ t.kept.keywords, spelling k = k := by
    intro k hk
    obtain ⟨raw, -, rfl⟩ := List.mem_map.mp (mem_normalizeKeywords.mp hk).1
    exact spelling_spelling raw
  rw [List.map_congr_left hself, List.map_id']

private theorem hits_kept (t : Template) (message : String) :
    hits t.kept.keywords (Text.lower message) (tokens (Text.lower message)) =
      (t.kept.keywords.filter (IsIn · message)).length := by
  have hspelled : t.kept.keywords.map (fun k => Text.lower (Text.trim k)) = t.kept.keywords :=
    map_spelling_kept t
  rw [hits, hspelled]
  congr 2
  funext k
  exact Bool.decide_eq_true.symm

/-- A keyword counts once, however many spellings of it the catalog file has. -/
theorem hits_kept_eq_card (t : Template) (message : String) :
    hits t.kept.keywords (Text.lower message) (tokens (Text.lower message)) =
      {k ∈ (t.keywords.map spelling).toFinset | k ≠ "" ∧ IsIn k message}.card := by
  have hnodup : (t.kept.keywords.filter (IsIn · message)).Nodup :=
    (nodup_normalizeKeywords t.keywords).filter _
  rw [hits_kept, ← List.toFinset_card_of_nodup hnodup]
  congr 1
  ext k
  simp only [List.mem_toFinset, List.mem_filter, Finset.mem_filter, decide_eq_true_eq]
  rw [keywords_kept, mem_normalizeKeywords, and_assoc]

/-! ## Scores -/

private theorem complexityWeight_bounds (a b : Complexity) :
    0 ≤ complexityWeight .exact a b ∧ complexityWeight .exact a b ≤ 2 / 10 := by
  unfold complexityWeight
  split <;> norm_num [ScoreWeights.exact]

private theorem exactScore_eq (t : Template) (intent : Intent) (confidence : ℚ) :
    t.exactScore intent confidence =
      ((if t.category = intent.category then 4 / 10 else 0) +
        ScoreWeights.exact.keywords
          (hits t.keywords (Text.lower intent.text) (tokens (Text.lower intent.text))) +
        complexityWeight .exact t.complexity intent.complexity) * confidence := by
  rw [exactScore, weighted]
  congr 3
  split <;> norm_num [ScoreWeights.exact]

private theorem exactScore_bounds (t : Template) (intent : Intent) (h : 0 ≤ confidence) :
    0 ≤ t.exactScore intent confidence ∧ t.exactScore intent confidence ≤ 9 / 10 * confidence := by
  have hcategory : (0 : ℚ) ≤ (if t.category = intent.category then 4 / 10 else 0) ∧
      (if t.category = intent.category then 4 / 10 else 0) ≤ (4 / 10 : ℚ) := by
    split <;> norm_num
  have hkeywords := ScoreWeights.keywords_bounds
    (hits t.keywords (Text.lower intent.text) (tokens (Text.lower intent.text)))
  have hcomplexity := complexityWeight_bounds t.complexity intent.complexity
  rw [exactScore_eq]
  constructor
  · apply mul_nonneg _ h
    linarith
  · apply mul_le_mul_of_nonneg_right _ h
    linarith

private theorem exactScore_mono (t : Template) (intent : Intent) (h : 0 ≤ confidence)
    {message : String} (hfound : ∀ k ∈ t.kept.keywords, IsIn k intent.text → IsIn k message) :
    t.kept.exactScore intent confidence ≤
      t.kept.exactScore { intent with text := message } confidence := by
  have hmore : (t.kept.keywords.filter (IsIn · intent.text)).length ≤
      (t.kept.keywords.filter (IsIn · message)).length := by
    rw [← List.countP_eq_length_filter, ← List.countP_eq_length_filter]
    exact List.countP_mono_left fun k hk hin => by simpa using hfound k hk (by simpa using hin)
  rw [exactScore_eq, exactScore_eq, hits_kept, hits_kept]
  have hkeywords := ScoreWeights.keywords_mono hmore
  gcongr

/-- A score grows as long as fewer than three keywords were found before. -/
theorem exactScore_lt (t : Template) (intent : Intent) (h : 0 < confidence) {message : String}
    (hfew : hits t.keywords (Text.lower intent.text) (tokens (Text.lower intent.text)) < 3)
    (hmore : hits t.keywords (Text.lower intent.text) (tokens (Text.lower intent.text)) <
      hits t.keywords (Text.lower message) (tokens (Text.lower message))) :
    t.exactScore intent confidence < t.exactScore { intent with text := message } confidence := by
  have hkeywords := ScoreWeights.keywords_lt hfew hmore
  rw [exactScore_eq, exactScore_eq]
  gcongr

end Template

namespace Catalog

/-- The scores of a loaded catalog's templates do not fall when all keywords found before are found
again, stay between zero and nine tenths of the confidence, and count each keyword that was written
once, however it is spelled there. -/
theorem scores_exact {written : List Template} {c : Catalog} (h : Loaded written c) :
    c.templates = written.map Template.kept ∧
      ∀ t ∈ written, ∀ (intent : Intent) (confidence : ℚ), 0 ≤ confidence → confidence ≤ 1 →
        (∀ message, (∀ k ∈ t.kept.keywords, Template.IsIn k intent.text → Template.IsIn k message) →
          t.kept.exactScore intent confidence ≤
            t.kept.exactScore { intent with text := message } confidence) ∧
        0 ≤ t.kept.exactScore intent confidence ∧
        t.kept.exactScore intent confidence ≤ 9 / 10 * confidence ∧
        Template.hits t.kept.keywords (Text.lower intent.text)
            (Template.tokens (Text.lower intent.text)) =
          {k ∈ (t.keywords.map Template.spelling).toFinset |
            k ≠ "" ∧ Template.IsIn k intent.text}.card := by
  refine ⟨h.templates_eq, fun t _ intent confidence hpos _ => ?_⟩
  obtain ⟨hlow, hhigh⟩ := t.kept.exactScore_bounds intent hpos
  exact ⟨fun message hfound => t.exactScore_mono intent hpos hfound, hlow, hhigh,
    t.hits_kept_eq_card intent.text⟩

/-- A file with one template, which spells one of its keywords in three ways. -/
def chores : String :=
  "[[templates]]\nid = \"chore\"\nname = \"Chore\"\ncategory = \"tasks\"\n" ++
    "keywords = [\"chore\", \"Chore\", \" chore \", \"\", \"errand\"]\n" ++
    "steps = [[\"s\", \"d\", \"o\"]]\n"

/-- The chore counts once, whatever else is said of it; the errand makes the score higher. -/
theorem scores_exact_chores : ∃ (c : Catalog) (t : Template), Loaded [t] c ∧
    written? chores = some [t] ∧ t.keywords = ["chore", "Chore", " chore ", "", "errand"] ∧
    Template.hits t.kept.keywords "do the chore" ["do", "the", "chore"] = 1 ∧
    t.kept.exactScore { text := "Do the chore" } (1 / 2) ≤
      t.kept.exactScore { text := "That CHORE again" } (1 / 2) ∧
    t.kept.exactScore { text := "Do the chore" } (1 / 2) <
      t.kept.exactScore { text := "Do the chore and an errand" } (1 / 2) := by
  obtain ⟨written, c, hc, hwritten, -⟩ := exists_loaded
    (by decide +kernel : (ofToml chores).toOption.map ids = some ["chore"])
  have hkeywords : (written? chores).map (·.map (·.keywords)) =
      some [["chore", "Chore", " chore ", "", "errand"]] := by
    decide +kernel
  rw [hwritten, Option.map_some, Option.some.injEq] at hkeywords
  obtain ⟨t, rfl, ht⟩ := List.map_eq_singleton_iff.mp hkeywords
  obtain ⟨hmono, -, -, hcount⟩ := (scores_exact hc).2 t (by simp) { text := "Do the chore" } (1 / 2)
    (by norm_num) (by norm_num)
  have hkept : t.kept.keywords = ["chore", "errand"] := by
    rw [Template.keywords_kept, ht]
    decide +kernel
  refine ⟨c, t, hc, hwritten, ht, ?_, hmono _ ?_, Template.exactScore_lt _ _ (by norm_num) ?_ ?_⟩
  · have hlower : Text.lower "Do the chore" = "do the chore" := by decide +kernel
    have htokens : Template.tokens "do the chore" = ["do", "the", "chore"] := by decide +kernel
    rw [hlower, htokens, ht] at hcount
    rw [hcount]
    decide +kernel
  all_goals
    rw [hkept]
    decide +kernel

end Catalog

end Automation
