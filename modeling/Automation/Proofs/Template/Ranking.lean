import Automation.Proofs.Decimal.Packing
import Automation.Template.Match
import Mathlib.Data.Int.Order.Basic
import Mathlib.Data.Prod.Lex
import Mathlib.Order.Nat
import Mathlib.Order.OrderDual

/-!
# Ranked templates

The templates offered for an intent are the first of an arrangement that the ranking determines: by
score, then by use, then by success, each the higher the better, and then by place in the catalog.
So a higher limit only appends, and one template more moves none of the others past each other.
Scores and success rates are ranked in the total order of their bit patterns, in which different
patterns have different places and a larger number comes after a smaller one; whether a score
reaches the least one is a comparison of numbers.
-/

namespace Automation

namespace Candidate

variable {x : Candidate} {cs xs ys : List Candidate} {ps qs : List (Candidate × Nat)}

/-- What a candidate is ranked by, the best first: score, use and success. -/
def merit (x : Candidate) : ℤᵒᵈ ×ₗ ℕᵒᵈ ×ₗ ℤᵒᵈ :=
  toLex (.toDual (Decimal.orderKey x.score.toBits),
    toLex (.toDual x.template.usageCount, .toDual (Decimal.orderKey x.template.successRate)))

/-- What a candidate at a place of the catalog is ranked by: equal merits by their places. -/
def standing (p : Candidate × Nat) : (ℤᵒᵈ ×ₗ ℕᵒᵈ ×ₗ ℤᵒᵈ) ×ₗ ℕ := toLex (p.1.merit, p.2)

private theorem standing_lt_iff {p q : Candidate × Nat} : standing p < standing q ↔
    p.1.merit < q.1.merit ∨ p.1.merit = q.1.merit ∧ p.2 < q.2 :=
  Prod.Lex.toLex_lt_toLex

private theorem before_iff {a b : Candidate} : a.before b = true ↔ a.merit < b.merit := by
  simp [before, merit, Prod.Lex.toLex_lt_toLex]

theorem before_of_score_lt {a b : Candidate} (h : b.score < a.score) : a.before b = true := by
  have hkey := Decimal.orderKey_lt_of_lt h
  simp [before, hkey]

theorem merit_inj {a b : Candidate} : a.merit = b.merit ↔
    a.score.toBits = b.score.toBits ∧ a.template.usageCount = b.template.usageCount ∧
      a.template.successRate = b.template.successRate := by
  simp [merit, Decimal.orderKey_inj]

private theorem rank_eq (cs : List Candidate) :
    rank cs = cs.mergeSort fun a b => a.merit ≤ b.merit := by
  rw [rank]
  congr 1
  funext a b
  rw [Bool.eq_iff_iff, Bool.not_eq_true', ← Bool.not_eq_true, before_iff, not_lt, decide_eq_true_eq]

private theorem merit_trans (a b c : Candidate) (hab : decide (a.merit ≤ b.merit) = true)
    (hbc : decide (b.merit ≤ c.merit) = true) : decide (a.merit ≤ c.merit) = true := by
  rw [decide_eq_true_eq] at *
  exact hab.trans hbc

private theorem merit_total (a b : Candidate) :
    (decide (a.merit ≤ b.merit) || decide (b.merit ≤ a.merit)) = true := by
  rw [Bool.or_eq_true, decide_eq_true_eq, decide_eq_true_eq]
  exact le_total a.merit b.merit

/-! ## The arrangement -/

/-- Places that increase along a list make its ranking a strict order. -/
theorem exists_sorted (hps : ps.Pairwise fun p q => p.2 < q.2) :
    ∃ qs : List (Candidate × Nat), qs.Perm ps ∧
      qs.Pairwise (fun p q => standing p < standing q) ∧
        qs.map Prod.fst = rank (ps.map Prod.fst) := by
  induction ps with
  | nil => exact ⟨[], .nil, .nil, by simp [rank]⟩
  | cons p ps ih =>
    obtain ⟨hfirst, hps⟩ := List.pairwise_cons.mp hps
    obtain ⟨qs, hperm, hsorted, hranked⟩ := ih hps
    -- the first candidate goes behind those that are strictly better
    obtain ⟨l₁, l₂, hins, hold, hbetter⟩ :=
      List.mergeSort_cons merit_trans merit_total p.1 (ps.map Prod.fst)
    rw [rank_eq, hold] at hranked
    obtain ⟨q₁, q₂, rfl, rfl, rfl⟩ := List.map_eq_append_iff.mp hranked
    have hrest := List.pairwise_mergeSort merit_trans merit_total (p.1 :: ps.map Prod.fst)
    rw [hins] at hrest
    have hworse := (List.pairwise_cons.mp (List.pairwise_append.mp hrest).2.1).1
    obtain ⟨hsorted₁, hsorted₂, hcross⟩ := List.pairwise_append.mp hsorted
    refine ⟨q₁ ++ p :: q₂, List.perm_middle.trans (hperm.cons p), ?_, ?_⟩
    · rw [List.pairwise_append, List.pairwise_cons]
      refine ⟨hsorted₁, ⟨?_, hsorted₂⟩, ?_⟩
      · intro q hq
        have hle : p.1.merit ≤ q.1.merit := by
          simpa using hworse q.1 (List.mem_map_of_mem hq)
        have hplace : p.2 < q.2 := hfirst q (hperm.mem_iff.mp (List.mem_append_right _ hq))
        rcases hle.lt_or_eq with hlt | heq
        · exact standing_lt_iff.mpr (.inl hlt)
        · exact standing_lt_iff.mpr (.inr ⟨heq, hplace⟩)
      · intro q hq r hr
        have hlt : q.1.merit < p.1.merit := by
          simpa using hbetter q.1 (List.mem_map_of_mem hq)
        rcases List.mem_cons.mp hr with rfl | hr
        · exact standing_lt_iff.mpr (.inl hlt)
        · exact hcross q hq r hr
    · rw [List.map_cons, rank_eq, hins, List.map_append, List.map_cons]

private theorem sorted_unique {qs' : List (Candidate × Nat)} (h : qs.Perm qs')
    (hqs : qs.Pairwise fun p q => standing p < standing q)
    (hqs' : qs'.Pairwise fun p q => standing p < standing q) : qs = qs' :=
  h.eq_of_pairwise (fun _ _ _ _ hlt hgt => absurd hlt hgt.asymm) hqs hqs'

private theorem map_fst_eq_rank (hps : ps.Pairwise fun p q => p.2 < q.2) (h : qs.Perm ps)
    (hqs : qs.Pairwise fun p q => standing p < standing q) :
    qs.map Prod.fst = rank (ps.map Prod.fst) := by
  obtain ⟨qs', hperm, hsorted, hranked⟩ := exists_sorted hps
  rw [sorted_unique (h.trans hperm.symm) hqs hsorted, hranked]

private theorem zipIdx_increasing {α : Type} (l : List α) (n : Nat) :
    (l.zipIdx n).Pairwise fun p q => p.2 < q.2 := by
  have h := List.pairwise_lt_range' (s := n) (n := l.length) 1
  rw [← List.zipIdx_map_snd, List.pairwise_map] at h
  exact h

/-- One candidate more takes a place among the others, which stay in their order. -/
theorem rank_insert (xs ys : List Candidate) (x : Candidate) :
    ∃ l₁ l₂, rank (xs ++ ys) = l₁ ++ l₂ ∧ rank (xs ++ x :: ys) = l₁ ++ x :: l₂ := by
  let first := xs.zipIdx
  let p := (x, xs.length)
  let last := ys.zipIdx (xs.length + 1)
  have hall : (first ++ p :: last).Pairwise fun p q => p.2 < q.2 := by
    have h := zipIdx_increasing (xs ++ x :: ys) 0
    rwa [List.zipIdx_append, List.zipIdx_cons, Nat.zero_add] at h
  have hothers : (first ++ last).Pairwise fun p q => p.2 < q.2 :=
    hall.sublist ((List.sublist_cons_self p last).append_left first)
  obtain ⟨qs, hperm, hsorted, hranked⟩ := exists_sorted hall
  obtain ⟨q₁, q₂, rfl⟩ := List.append_of_mem (hperm.mem_iff.mpr (by simp : p ∈ first ++ p :: last))
  have hperm' : (q₁ ++ q₂).Perm (first ++ last) :=
    (List.perm_middle.symm.trans (hperm.trans List.perm_middle)).cons_inv
  have hsorted' : (q₁ ++ q₂).Pairwise fun p q => standing p < standing q :=
    hsorted.sublist ((List.sublist_cons_self p q₂).append_left q₁)
  refine ⟨q₁.map Prod.fst, q₂.map Prod.fst, ?_, ?_⟩
  · have hranked' := map_fst_eq_rank hothers hperm' hsorted'
    simpa [first, last] using hranked'.symm
  · simpa [first, last, p] using hranked.symm

end Candidate

/-- The template with its score against an intent. -/
def Template.candidate (intent : Intent) (t : Template) : Candidate :=
  let text := Text.lower intent.text
  ⟨t, t.score intent text (tokens text)⟩

/-- A list that may have so many members, and what becomes of it when `x` comes in: it stays out, or
finds room, or pushes the last member out. -/
inductive Admits {α : Type} (limit : Nat) (x : α) : List α → List α → Prop where
  | out (l : List α) : Admits limit x l l
  | room (l₁ l₂ : List α) : (l₁ ++ x :: l₂).length ≤ limit →
      Admits limit x (l₁ ++ l₂) (l₁ ++ x :: l₂)
  | full (l₁ l₂ : List α) (last : α) : (l₁ ++ x :: l₂).length = limit →
      Admits limit x (l₁ ++ l₂ ++ [last]) (l₁ ++ x :: l₂)

private theorem admits_take {α : Type} (limit : Nat) (x : α) (l₁ l₂ : List α) :
    Admits limit x ((l₁ ++ l₂).take limit) ((l₁ ++ x :: l₂).take limit) := by
  rcases Nat.lt_or_ge l₁.length limit with hfits | hfull
  · obtain ⟨k, rfl⟩ := Nat.exists_eq_add_of_lt hfits
    have hnew : (l₁ ++ x :: l₂).take (l₁.length + k + 1) = l₁ ++ x :: l₂.take k := by
      rw [Nat.add_assoc, List.take_length_add_append, List.take_succ_cons]
    rw [hnew, Nat.add_assoc, List.take_length_add_append]
    rcases Nat.lt_or_ge k l₂.length with hmore | hall
    · -- the member at `k` is the last one that the limit let in
      rw [← List.take_append_getElem hmore, ← List.append_assoc]
      apply Admits.full
      simp only [List.length_append, List.length_cons, List.length_take]
      omega
    · rw [List.take_of_length_le hall, List.take_of_length_le (by omega)]
      apply Admits.room
      simp only [List.length_append, List.length_cons]
      omega
  · rw [List.take_append_of_le_length hfull, List.take_append_of_le_length hfull]
    exact .out _

namespace Catalog

variable {c : Catalog} {settings : MatchSettings} {intent : Intent}
  {l l' : List (Candidate × Nat)}

/-- The templates that reach the least score, with their scores and their places in the catalog. -/
def eligible (c : Catalog) (settings : MatchSettings) (intent : Intent) :
    List (Candidate × Nat) :=
  (c.templates.zipIdx.map fun (t, i) => (t.candidate intent, i)).filter fun p =>
    settings.minScore ≤ p.1.score

/-- The list holds the templates that reach the least score, by score, use, success and place. -/
structure Arranges (c : Catalog) (settings : MatchSettings) (intent : Intent)
    (l : List (Candidate × Nat)) : Prop where
  perm : l.Perm (c.eligible settings intent)
  sorted : l.Pairwise fun p q => Candidate.standing p < Candidate.standing q

private theorem eligible_increasing (c : Catalog) (settings : MatchSettings) (intent : Intent) :
    (c.eligible settings intent).Pairwise fun p q => p.2 < q.2 := by
  apply List.Pairwise.filter
  rw [List.pairwise_map]
  exact Candidate.zipIdx_increasing c.templates 0

private theorem map_fst_eligible (c : Catalog) (settings : MatchSettings) (intent : Intent) :
    (c.eligible settings intent).map Prod.fst = c.scored settings intent := by
  have hplaces : (c.templates.zipIdx.map fun (t, i) => (t.candidate intent, i)).map Prod.fst =
      c.templates.map (Template.candidate intent) := by
    rw [List.map_map, ← List.zipIdx_map_fst 0 c.templates, List.map_map]
    simp [Function.comp_def]
  have hscored : c.scored settings intent =
      (c.templates.map (Template.candidate intent)).filter (settings.minScore ≤ ·.score) := rfl
  rw [hscored, ← hplaces, List.filter_map]
  rfl

private theorem exists_arranges (c : Catalog) (settings : MatchSettings) (intent : Intent) :
    ∃ l, c.Arranges settings intent l := by
  obtain ⟨l, hperm, hsorted, -⟩ :=
    Candidate.exists_sorted (c.eligible_increasing settings intent)
  exact ⟨l, hperm, hsorted⟩

private theorem Arranges.unique (h : c.Arranges settings intent l)
    (h' : c.Arranges settings intent l') : l = l' :=
  Candidate.sorted_unique (h.perm.trans h'.perm.symm) h.sorted h'.sorted

private theorem Arranges.candidates_eq (h : c.Arranges settings intent l)
    (hintent : intent.isAutomation = true) (limit : Nat) :
    c.candidates settings intent limit = (l.map Prod.fst).take limit := by
  rw [candidates, if_pos hintent, ← map_fst_eligible,
    Candidate.map_fst_eq_rank (c.eligible_increasing settings intent) h.perm h.sorted]

private theorem candidates_insert (settings : MatchSettings) (hintent : intent.isAutomation = true)
    (limit : Nat) (before behind : List Template) (t : Template) :
    Admits limit (t.candidate intent)
      ((⟨before ++ behind⟩ : Catalog).candidates settings intent limit)
      ((⟨before ++ t :: behind⟩ : Catalog).candidates settings intent limit) := by
  let reach := fun ts : List Template =>
    (ts.map (Template.candidate intent)).filter (settings.minScore ≤ ·.score)
  have hscored : ∀ ts, (⟨ts⟩ : Catalog).scored settings intent = reach ts := fun _ => rfl
  have hold : reach (before ++ behind) = reach before ++ reach behind := by
    simp only [reach, List.map_append, List.filter_append]
  rw [candidates, candidates, if_pos hintent, if_pos hintent, hscored, hscored, hold]
  by_cases hreach : settings.minScore ≤ (t.candidate intent).score
  · have hnew : reach (before ++ t :: behind) =
        reach before ++ t.candidate intent :: reach behind := by
      simp only [reach, List.map_append, List.map_cons, List.filter_append]
      rw [List.filter_cons_of_pos (by simpa using hreach)]
    obtain ⟨l₁, l₂, hrank, hrank'⟩ :=
      Candidate.rank_insert (reach before) (reach behind) (t.candidate intent)
    rw [hnew, hrank, hrank']
    exact admits_take limit _ l₁ l₂
  · have hnew : reach (before ++ t :: behind) = reach before ++ reach behind := by
      simp only [reach, List.map_append, List.map_cons, List.filter_append]
      rw [List.filter_cons_of_neg (by simpa using hreach)]
    rw [hnew]
    exact .out _

/-- For an intent that asks for something the templates that reach the least score are arranged in
one way by score, use, success and place, and the candidates are the first of them. A higher limit
appends candidates, and a template that comes into the catalog leaves the others in their order and
can push out the last one only. -/
theorem candidates_ranked (c : Catalog) (settings : MatchSettings)
    (hintent : intent.isAutomation = true) :
    (∃! l, c.Arranges settings intent l) ∧
      (∀ l limit, c.Arranges settings intent l →
        c.candidates settings intent limit = (l.map Prod.fst).take limit) ∧
      (∀ limit more, limit ≤ more →
        c.candidates settings intent limit <+: c.candidates settings intent more) ∧
      ∀ limit before behind t, c.templates = before ++ behind →
        Admits limit (t.candidate intent) (c.candidates settings intent limit)
          ((⟨before ++ t :: behind⟩ : Catalog).candidates settings intent limit) := by
  obtain ⟨l, hl⟩ := c.exists_arranges settings intent
  refine ⟨⟨l, hl, fun l' hl' => hl'.unique hl⟩, fun l limit h => h.candidates_eq hintent limit,
    ?_, ?_⟩
  · intro limit more hle
    rw [hl.candidates_eq hintent, hl.candidates_eq hintent]
    exact List.take_prefix_take_left hle
  · intro limit before behind t htemplates
    have hc : c = ⟨before ++ behind⟩ := congrArg Catalog.mk htemplates
    rw [hc]
    exact candidates_insert settings hintent limit before behind t

/-- A template about data. -/
def dataTemplate (id : String) (keywords : List String) (usage : Nat) (success : Float) :
    Template :=
  { id, name := id, category := .data, keywords, steps := [], usageCount := usage,
    successRate := success.toBits }

/-- Templates of different scores, uses and success rates, and two that differ in their places only.
-/
def mixed : Catalog :=
  ⟨[dataTemplate "other" [] 9 1.0, dataTemplate "failing" ["x"] 2 0.25,
    dataTemplate "first" ["x"] 2 0.5, dataTemplate "used" ["x"] 5 0.0,
    dataTemplate "second" ["x"] 2 0.5]⟩

def dataRequest : Intent :=
  { isAutomation := true, category := .data, confidence := 1, text := "x" }

/-- The keyword comes before use, use before success, and success before place. -/
theorem candidates_ranked_mixed : dataRequest.isAutomation = true ∧
    ∀ limit, (mixed.candidates {} dataRequest limit).map (·.template.id) =
      ["used", "first", "second", "failing", "other"].take limit := by
  let other := ((dataTemplate "other" [] 9 1.0).candidate dataRequest, 0)
  let failing := ((dataTemplate "failing" ["x"] 2 0.25).candidate dataRequest, 1)
  let first := ((dataTemplate "first" ["x"] 2 0.5).candidate dataRequest, 2)
  let used := ((dataTemplate "used" ["x"] 5 0.0).candidate dataRequest, 3)
  let second := ((dataTemplate "second" ["x"] 2 0.5).candidate dataRequest, 4)
  have heligible : mixed.eligible {} dataRequest = [other, failing, first, used, second] := by
    have hreach : ∀ p ∈ [other, failing, first, used, second],
        ({} : MatchSettings).minScore ≤ p.1.score := by
      decide +kernel
    exact List.filter_eq_self.mpr fun p hp => decide_eq_true (hreach p hp)
  have harranged : mixed.Arranges {} dataRequest [used, first, second, failing, other] := by
    refine ⟨?_, by decide +kernel⟩
    rw [heligible]
    have htail : [first, used, second].Perm [used, first, second] := .swap used first [second]
    have hhead : [other, failing].Perm [failing, other] := .swap failing other []
    exact (List.perm_append_comm : ([used, first, second] ++ [failing, other]).Perm _).trans
      (hhead.symm.append htail.symm)
  refine ⟨rfl, fun limit => ?_⟩
  rw [(candidates_ranked mixed {} rfl).2.1 _ limit harranged, List.map_take]
  rfl

end Catalog

end Automation
