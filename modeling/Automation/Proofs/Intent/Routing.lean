import Automation.Intent.Router
import Automation.Proofs.Text.LowerCase

/-!
# Whole words that are found and those that are not

A router seeks its phrases from left to right, the longest first and without overlap, and drops
those found that are part of a longer word only afterwards. So what it reports stands in the text as
a whole word. But a phrase that was dropped has used up the text in which another phrase may stand
as a whole word, and that one is not found; nor is a phrase found that the text spells with capital
letters beyond ASCII. These are the only whole words that are not found.
-/

namespace Automation.Router

variable {cs : List Char} {ks : List Keyword} {calls : List (String × List String)}

/-- A stretch of a text, between what is in front of it and what is behind it. -/
structure Stretch (cs : List Char) where
  front : List Char
  body : List Char
  back : List Char
  parts : front ++ (body ++ back) = cs

namespace Stretch

variable {s m o : Stretch cs}

def start (s : Stretch cs) : Nat := s.front.length

def stop (s : Stretch cs) : Nat := s.front.length + s.body.length

/-- Neither the character in front nor the one behind belongs to a word. -/
def IsWholeWord (s : Stretch cs) : Prop :=
  (∀ c ∈ s.front.getLast?, isWordPart c = false) ∧ ∀ c ∈ s.back.head?, isWordPart c = false

/-- The stretch is the phrase, but for the case of letters. -/
def Reads (s : Stretch cs) (phrase : String) : Prop :=
  Text.lower (String.ofList s.body) = phrase

/-- The stretch is the phrase, but for the case of ASCII letters. -/
def Spells (s : Stretch cs) (phrase : String) : Prop :=
  Text.asciiLower (String.ofList s.body) = phrase

/-- The other stretch begins within this one, and if it begins with it, is not longer. -/
def Covers (m o : Stretch cs) : Prop :=
  m.start ≤ o.start ∧ o.start < m.stop ∧ (m.start = o.start → o.stop ≤ m.stop)

end Stretch

/-- The stretches are the matches of the phrases from left to right, the longest first, without
overlap and in any case of ASCII letters. -/
structure LeftmostLongest (phrase : String → Prop) (chosen : List (Stretch cs)) : Prop where
  spells : ∀ m ∈ chosen, ∃ p, phrase p ∧ m.Spells p
  apart : chosen.Pairwise fun m n => m.stop ≤ n.start
  covers : ∀ (o : Stretch cs) (p : String), phrase p → o.Spells p → ∃ m ∈ chosen, m.Covers o

/-! ## One phrase at one place -/

private theorem dropPhrase?_eq_some {phrase rest : List Char} : dropPhrase? phrase cs = some rest ↔
    ∃ body, body.map Char.toLower = phrase ∧ cs = body ++ rest := by
  induction phrase generalizing cs with
  | nil => simp [dropPhrase?, eq_comm]
  | cons p phrase ih =>
    cases cs with
    | nil => simp [dropPhrase?]
    | cons c cs =>
      rw [dropPhrase?]
      constructor
      · intro h
        split at h
        · next hc =>
          obtain ⟨body, rfl, rfl⟩ := ih.mp h
          exact ⟨c :: body, by rw [List.map_cons, hc], rfl⟩
        · cases h
      · rintro ⟨body, hbody, hcs⟩
        obtain ⟨d, body, rfl, hd, htail⟩ := List.map_eq_cons_iff.mp hbody
        rw [List.cons_append, List.cons.injEq] at hcs
        obtain ⟨rfl, rfl⟩ := hcs
        rw [if_pos hd.symm]
        exact ih.mpr ⟨body, htail, rfl⟩

private theorem isSome_dropPhrase?_iff {phrase : List Char} :
    (dropPhrase? phrase cs).isSome = true ↔
    ∃ body rest, body.map Char.toLower = phrase ∧ cs = body ++ rest := by
  rw [Option.isSome_iff_exists]
  constructor
  · rintro ⟨rest, h⟩
    obtain ⟨body, hbody⟩ := dropPhrase?_eq_some.mp h
    exact ⟨body, rest, hbody⟩
  · rintro ⟨body, rest, h⟩
    exact ⟨rest, dropPhrase?_eq_some.mpr ⟨body, h⟩⟩

/-- A keyword is found at the beginning if any fits, and no other that fits is longer. -/
theorem longest?_spec (ks : List Keyword) (cs : List Char) :
    (∀ k ∈ ks, (dropPhrase? k.phrase.toList cs).isSome = true → ∃ best ∈ longest? ks cs,
      k.phrase.length ≤ best.phrase.length) ∧
    ∀ best ∈ longest? ks cs, best ∈ ks ∧ (dropPhrase? best.phrase.toList cs).isSome = true := by
  induction ks using List.reverseRecOn with
  | nil => exact ⟨nofun, nofun⟩
  | append_singleton ks k ih =>
    obtain ⟨hlongest, hfits⟩ := ih
    have hstep : longest? (ks ++ [k]) cs =
        if (dropPhrase? k.phrase.toList cs).isSome &&
            (longest? ks cs).all (·.phrase.length < k.phrase.length) then some k
        else longest? ks cs := by
      simp [longest?]
    rw [hstep]
    split
    · next htake =>
      obtain ⟨hk, hlonger⟩ := Bool.and_eq_true_iff.mp htake
      refine ⟨fun l hl hlfits => ⟨k, rfl, ?_⟩, ?_⟩
      · rcases List.mem_append.mp hl with hl | hl
        · obtain ⟨best, hbest, hle⟩ := hlongest l hl hlfits
          have hlt := (Option.all_eq_true _ _).mp hlonger best hbest
          exact hle.trans (of_decide_eq_true hlt).le
        · rw [List.mem_singleton.mp hl]
      · intro best hbest
        obtain rfl := Option.some.inj hbest
        exact ⟨by simp, hk⟩
    · next hkeep =>
      refine ⟨fun l hl hlfits => ?_, fun best hbest => ?_⟩
      · rcases List.mem_append.mp hl with hl | hl
        · exact hlongest l hl hlfits
        · obtain rfl := List.mem_singleton.mp hl
          rw [hlfits, Bool.true_and, Bool.not_eq_true, Option.all_eq_false] at hkeep
          obtain ⟨best, hbest, hle⟩ := hkeep
          exact ⟨best, hbest, by simpa using hle⟩
      · obtain ⟨hmem, hbestfits⟩ := hfits best hbest
        exact ⟨List.mem_append_left _ hmem, hbestfits⟩

/-! ## The scan -/

namespace Stretch

variable {s m o : Stretch cs}

private theorem spells_iff {phrase : String} :
    s.Spells phrase ↔ s.body.map Char.toLower = phrase.toList := by
  rw [Spells, Text.asciiLower, String.toList_ofList, ← String.toList_inj, String.toList_ofList]

private theorem Spells.length {phrase : String} (h : s.Spells phrase) :
    s.body.length = phrase.length := by
  rw [← List.length_map (f := Char.toLower), spells_iff.mp h, String.length_toList]

private theorem isWholeWord_iff (s : Stretch cs) : s.IsWholeWord ↔
    (s.front.getLast?.any isWordPart || s.back.head?.any isWordPart) = false := by
  rw [Bool.or_eq_false_iff, Option.any_eq_false, Option.any_eq_false, IsWholeWord]
  simp

private theorem eq_of_start {front rest : List Char} (hcs : front ++ rest = cs)
    (h : s.start = front.length) : s.front = front ∧ s.body ++ s.back = rest :=
  List.append_inj (s.parts.trans hcs.symm) h

private theorem Spells.fits {front rest : List Char} (hcs : front ++ rest = cs)
    (h : s.start = front.length) {phrase : String} (hs : s.Spells phrase) :
    (dropPhrase? phrase.toList rest).isSome = true := by
  obtain ⟨-, hrest⟩ := eq_of_start hcs h
  exact isSome_dropPhrase?_iff.mpr ⟨s.body, s.back, spells_iff.mp hs, hrest.symm⟩

private theorem stop_le (s : Stretch cs) : s.stop ≤ cs.length := by
  have hlength := congrArg List.length s.parts
  simp only [List.length_append] at hlength
  rw [stop]
  omega

end Stretch

/-- From a place on, these stretches are chosen, and the keywords found are those whole words. -/
structure Scanned (ks : List Keyword) (place : Nat) (found : List Keyword)
    (chosen : List (Stretch cs)) : Prop where
  start_le : ∀ m ∈ chosen, place ≤ m.start
  spells : ∀ m ∈ chosen, ∃ k ∈ ks, m.Spells k.phrase
  apart : chosen.Pairwise fun m n => m.stop ≤ n.start
  covers : ∀ o : Stretch cs, place ≤ o.start → ∀ k ∈ ks, o.Spells k.phrase →
    ∃ m ∈ chosen, m.Covers o
  whole : ∀ k ∈ found, k ∈ ks ∧ ∃ m ∈ chosen, m.IsWholeWord ∧ m.Spells k.phrase
  found_ne_nil : ∀ m ∈ chosen, m.IsWholeWord → found ≠ []

namespace Scanned

variable {place : Nat} {found : List Keyword} {chosen : List (Stretch cs)}

private theorem pass (h : Scanned ks (place + 1) found chosen)
    (hnone : ∀ o : Stretch cs, o.start = place → ∀ k ∈ ks, ¬ o.Spells k.phrase) :
    Scanned ks place found chosen where
  start_le m hm := (Nat.le_succ place).trans (h.start_le m hm)
  spells := h.spells
  apart := h.apart
  covers o hplace k hk ho := by
    rcases hplace.eq_or_lt with heq | hlt
    · exact absurd ho (hnone o heq.symm k hk)
    · exact h.covers o hlt k hk ho
  whole := h.whole
  found_ne_nil := h.found_ne_nil

private theorem choose {m : Stretch cs} (h : Scanned ks m.stop found chosen) {k : Keyword}
    (hk : k ∈ ks) (hm : m.Spells k.phrase) (hne : m.body ≠ [])
    (hlongest : ∀ o : Stretch cs, o.start = m.start → ∀ l ∈ ks, o.Spells l.phrase →
      o.stop ≤ m.stop) {found' : List Keyword}
    (hfound : m.IsWholeWord ∧ found' = k :: found ∨ ¬ m.IsWholeWord ∧ found' = found) :
    Scanned ks m.start found' (m :: chosen) := by
  have hpos : m.start < m.stop := by
    have hlength := List.length_pos_of_ne_nil hne
    rw [Stretch.start, Stretch.stop]
    omega
  refine ⟨?_, ?_, ?_, ?_, ?_, ?_⟩
  · exact List.forall_mem_cons.mpr ⟨le_rfl, fun n hn => hpos.le.trans (h.start_le n hn)⟩
  · exact List.forall_mem_cons.mpr ⟨⟨k, hk, hm⟩, h.spells⟩
  · exact List.pairwise_cons.mpr ⟨h.start_le, h.apart⟩
  · intro o hplace l hl ho
    by_cases hbehind : m.stop ≤ o.start
    · obtain ⟨n, hn, hcovers⟩ := h.covers o hbehind l hl ho
      exact ⟨n, List.mem_cons_of_mem m hn, hcovers⟩
    · exact ⟨m, List.mem_cons_self, hplace, by omega, fun heq => hlongest o heq.symm l hl ho⟩
  · have hlater : ∀ l ∈ found, l ∈ ks ∧ ∃ n ∈ m :: chosen, n.IsWholeWord ∧ n.Spells l.phrase := by
      intro l hl
      obtain ⟨hmem, n, hn, hwhole⟩ := h.whole l hl
      exact ⟨hmem, n, List.mem_cons_of_mem m hn, hwhole⟩
    rcases hfound with ⟨hwhole, rfl⟩ | ⟨-, rfl⟩
    · exact List.forall_mem_cons.mpr ⟨⟨hk, m, List.mem_cons_self, hwhole, hm⟩, hlater⟩
    · exact hlater
  · rintro n hn hwhole rfl
    rcases hfound with ⟨-, hfound⟩ | ⟨hnot, hfound⟩
    · cases hfound
    · rcases List.mem_cons.mp hn with rfl | hn
      · exact hnot hwhole
      · exact h.found_ne_nil n hn hwhole hfound.symm

end Scanned

private theorem exists_longest {front rest : List Char} (hcs : front ++ rest = cs) {k : Keyword}
    (h : longest? ks rest = some k) : k ∈ ks ∧ ∃ m : Stretch cs, m.front = front ∧
      m.back = rest.drop k.phrase.length ∧ m.Spells k.phrase ∧
      ∀ o : Stretch cs, o.start = m.start → ∀ l ∈ ks, o.Spells l.phrase → o.stop ≤ m.stop := by
  obtain ⟨hlongest, hfits⟩ := longest?_spec ks rest
  obtain ⟨hk, hkfits⟩ := hfits k h
  obtain ⟨body, back, hbody, rfl⟩ := isSome_dropPhrase?_iff.mp hkfits
  have hm : (⟨front, body, back, hcs⟩ : Stretch cs).Spells k.phrase :=
    Stretch.spells_iff.mpr hbody
  refine ⟨hk, ⟨front, body, back, hcs⟩, rfl, ?_, hm, fun o hstart l hl ho => ?_⟩
  · rw [← hm.length, List.drop_left]
  · obtain ⟨best, hbest, hle⟩ := hlongest l hl (ho.fits hcs hstart)
    obtain rfl : k = best := Option.some.inj (h.symm.trans hbest)
    rw [← ho.length, ← hm.length] at hle
    rw [Stretch.stop, Stretch.stop]
    rw [Stretch.start, Stretch.start] at hstart
    omega

/-- The scan of the rest behind what is passed over chooses from left to right the longest. -/
theorem exists_scanned (hne : ∀ k ∈ ks, k.phrase ≠ "") {front rest : List Char}
    (hcs : front ++ rest = cs) {skip : Nat} (hskip : skip ≤ rest.length) :
    ∃ chosen : List (Stretch cs), Scanned ks (front.length + skip)
      (occurrences ks front.getLast? skip rest) chosen := by
  have hroom {o : Stretch cs} {k : Keyword} (hk : k ∈ ks) (ho : o.Spells k.phrase) :
      0 < o.body.length := by
    rw [ho.length, ← String.length_toList, List.length_pos_iff]
    simpa using hne k hk
  -- the scan goes character by character; a match is passed over by skipping what is left of it
  induction rest generalizing front skip with
  | nil =>
    refine ⟨[], nofun, nofun, List.Pairwise.nil, ?_, nofun, nofun⟩
    intro o hplace k hk ho
    -- there is no room for a phrase behind the end
    have hend : front.length = cs.length := by rw [← hcs, List.append_nil]
    have hpos := hroom hk ho
    have hstop := o.stop_le
    rw [Stretch.start] at hplace
    rw [Stretch.stop] at hstop
    omega
  | cons c rest ih =>
    have hnext : (front ++ [c]) ++ rest = cs := by
      rw [List.append_assoc, List.singleton_append, hcs]
    have hscanned {skip : Nat} (hskip : skip ≤ rest.length) : ∃ chosen : List (Stretch cs),
        Scanned ks (front.length + 1 + skip) (occurrences ks (some c) skip rest) chosen := by
      obtain ⟨chosen, h⟩ := ih hnext hskip
      rw [List.getLast?_concat, List.length_append, List.length_singleton] at h
      exact ⟨chosen, h⟩
    cases skip with
    | succ skip =>
      obtain ⟨chosen, h⟩ := hscanned (Nat.le_of_succ_le_succ hskip)
      rw [Nat.add_right_comm] at h
      exact ⟨chosen, h⟩
    | zero =>
      rw [occurrences]
      cases hbest : longest? ks (c :: rest) with
      | none =>
        obtain ⟨chosen, h⟩ := hscanned (Nat.zero_le _)
        refine ⟨chosen, h.pass fun o hplace k hk ho => ?_⟩
        obtain ⟨best, hmem, -⟩ := (longest?_spec ks (c :: rest)).1 k hk (ho.fits hcs hplace)
        rw [hbest] at hmem
        cases hmem
      | some k =>
        obtain ⟨hk, m, rfl, hback, hm, hlongest⟩ := exists_longest hcs hbest
        have hpos := hroom hk hm
        have hlength := hm.length
        have hstop := m.stop_le
        have hskip : k.phrase.length - 1 ≤ rest.length := by
          have htotal := congrArg List.length hcs
          rw [List.length_append, List.length_cons] at htotal
          rw [Stretch.stop] at hstop
          omega
        obtain ⟨chosen, h⟩ := hscanned hskip
        have hplace : m.front.length + 1 + (k.phrase.length - 1) = m.stop := by
          rw [Stretch.stop]
          omega
        rw [hplace] at h
        refine ⟨m :: chosen, h.choose hk hm (List.ne_nil_of_length_pos hpos) hlongest ?_⟩
        dsimp only
        rw [← hback]
        split
        · next hword =>
          exact .inr ⟨fun hwhole => by simp [m.isWholeWord_iff.mp hwhole] at hword, rfl⟩
        · next hword => exact .inl ⟨m.isWholeWord_iff.mpr (Bool.eq_false_iff.mpr hword), rfl⟩

/-! ## Phrases and handlers -/

/-- The router after phrases were added for handlers, one after the other. -/
def ofCalls (calls : List (String × List String)) : Router :=
  calls.foldl (fun r call => r.addKeywords call.1 call.2) {}

/-- The phrase is added for the handler. It is kept trimmed and in lower case, and not if it is
blank. -/
def Adds (calls : List (String × List String)) (handler phrase : String) : Prop :=
  phrase ≠ "" ∧ ∃ phrases, (handler, phrases) ∈ calls ∧
    ∃ p ∈ phrases, Text.lower (Text.trim p) = phrase

private theorem Adds.lower {handler phrase : String} (h : Adds calls handler phrase) :
    Text.lower phrase = phrase := by
  obtain ⟨-, phrases, -, p, -, rfl⟩ := h
  exact Text.lower_lower _

private theorem getElem?_place (handlers : List String) (handler : String) :
    (∀ (i : Nat) (owner : String), handlers[i]? = some owner →
        (place handlers handler).2[i]? = some owner) ∧
      (place handlers handler).2[(place handlers handler).1]? = some handler := by
  unfold place
  split
  · next i hi =>
    obtain ⟨hlt, heq, -⟩ := List.findIdx?_eq_some_iff_getElem.mp hi
    exact ⟨fun _ _ h => h, by rw [List.getElem?_eq_getElem hlt, eq_of_beq heq]⟩
  · refine ⟨fun i owner h => ?_, by simp⟩
    rw [List.getElem?_append_left (List.getElem?_eq_some_iff.mp h).1, h]

private theorem ofCalls_concat (calls : List (String × List String)) (handler : String)
    (phrases : List String) : ofCalls (calls ++ [(handler, phrases)]) =
      (ofCalls calls).addKeywords handler phrases := by
  simp [ofCalls]

private theorem mem_addKeywords {r : Router} {handler : String} {phrases : List String}
    {k : Keyword} : k ∈ (r.addKeywords handler phrases).keywords ↔ k ∈ r.keywords ∨
      k.handler = (place r.handlers handler).1 ∧ k.phrase ≠ "" ∧
        ∃ p ∈ phrases, Text.lower (Text.trim p) = k.phrase := by
  rw [addKeywords, List.mem_append, List.mem_map]
  refine or_congr_right ⟨?_, ?_⟩
  · rintro ⟨phrase, hphrase, rfl⟩
    obtain ⟨hmem, hne⟩ := List.mem_filter.mp hphrase
    exact ⟨rfl, by simpa using hne, List.mem_map.mp hmem⟩
  · rintro ⟨hplace, hne, hmem⟩
    refine ⟨k.phrase, List.mem_filter.mpr ⟨List.mem_map.mpr hmem, by simpa using hne⟩, ?_⟩
    rw [← hplace]

private theorem adds_of_mem {k : Keyword} (h : k ∈ (ofCalls calls).keywords) :
    ∃ handler, (ofCalls calls).handlers[k.handler]? = some handler ∧
      Adds calls handler k.phrase := by
  induction calls using List.reverseRecOn with
  | nil => cases h
  | append_singleton calls call ih =>
    obtain ⟨handler, phrases⟩ := call
    obtain ⟨hkept, hplace⟩ := getElem?_place (ofCalls calls).handlers handler
    rw [ofCalls_concat] at h ⊢
    rcases mem_addKeywords.mp h with hold | ⟨hnew, hne, hadded⟩
    · obtain ⟨owner, howner, hne, added, hcall, hadded⟩ := ih hold
      exact ⟨owner, hkept _ _ howner, hne, added, List.mem_append_left _ hcall, hadded⟩
    · refine ⟨handler, ?_, hne, phrases, by simp, hadded⟩
      rw [hnew]
      exact hplace

private theorem exists_mem_of_adds {handler phrase : String} (h : Adds calls handler phrase) :
    ∃ k ∈ (ofCalls calls).keywords, k.phrase = phrase := by
  induction calls using List.reverseRecOn with
  | nil =>
    obtain ⟨-, phrases, hcall, -⟩ := h
    cases hcall
  | append_singleton calls call ih =>
    obtain ⟨owner, added⟩ := call
    rw [ofCalls_concat]
    obtain ⟨hne, phrases, hcall, hadded⟩ := h
    rcases List.mem_append.mp hcall with hold | hnew
    · obtain ⟨k, hk, hphrase⟩ := ih ⟨hne, phrases, hold, hadded⟩
      exact ⟨k, mem_addKeywords.mpr (.inl hk), hphrase⟩
    · obtain ⟨rfl, rfl⟩ := Prod.mk.inj (List.mem_singleton.mp hnew)
      exact ⟨⟨phrase, _⟩, mem_addKeywords.mpr (.inr ⟨rfl, hne, hadded⟩), rfl⟩

/-! ## The best route -/

private theorem mem_phrasesOf {found : List Keyword} {i : Nat} {p : String} :
    p ∈ phrasesOf found i ↔ ∃ k ∈ found, k.handler = i ∧ k.phrase = p := by
  rw [phrasesOf, Text.mem_foldl_distinct]
  simp [and_assoc]

private theorem best?_eq_none_iff {routes : List Route} : best? routes = none ↔ routes = [] := by
  cases routes with
  | nil => simp [best?]
  | cons r routes =>
    rw [best?]
    split
    · split <;> simp
    · simp

private theorem mem_of_best? {routes : List Route} {r : Route} (h : best? routes = some r) :
    r ∈ routes := by
  induction routes with
  | nil => cases h
  | cons s routes ih =>
    rw [best?] at h
    split at h
    · next t ht =>
      split at h
      · exact List.mem_cons_of_mem s (ih (ht.trans h))
      · exact Option.some.inj h ▸ List.mem_cons_self
    · exact Option.some.inj h ▸ List.mem_cons_self

private theorem mem_numbered {handlers : List String} {i : Nat} {handler : String} :
    (i, handler) ∈ (List.range handlers.length).zip handlers ↔ handlers[i]? = some handler := by
  rw [List.mem_iff_getElem?]
  simp only [List.getElem?_zip_eq_some]
  constructor
  · rintro ⟨j, hj, hhandler⟩
    rw [List.getElem?_range (List.getElem?_eq_some_iff.mp hhandler).1, Option.some.injEq] at hj
    exact hj ▸ hhandler
  · intro hhandler
    exact ⟨i, List.getElem?_range (List.getElem?_eq_some_iff.mp hhandler).1, hhandler⟩

private theorem mem_routes {handlers : List String} {found : List Keyword} {route : Route} :
    route ∈ ((((List.range handlers.length).zip handlers).map fun (i, handler) =>
        (⟨handler, phrasesOf found i⟩ : Route)).filter (!·.matched.isEmpty)) ↔
      route.matched ≠ [] ∧ ∃ i, handlers[i]? = some route.handler ∧
        route.matched = phrasesOf found i := by
  rw [List.mem_filter, List.mem_map]
  constructor
  · rintro ⟨⟨⟨i, handler⟩, hmem, rfl⟩, hne⟩
    exact ⟨by simpa using hne, i, mem_numbered.mp hmem, rfl⟩
  · rintro ⟨hne, i, hi, hmatched⟩
    obtain ⟨handler, matched⟩ := route
    obtain rfl : matched = phrasesOf found i := hmatched
    exact ⟨⟨(i, handler), mem_numbered.mpr hi, rfl⟩, by simpa using hne⟩

/-- There is a route just if a keyword was found, and what it reports was found. -/
theorem route_spec (r : Router) (text : String)
    (h : ∀ k ∈ occurrences r.keywords none 0 text.toList,
      ∃ handler, r.handlers[k.handler]? = some handler) :
    (r.route text = none ↔ occurrences r.keywords none 0 text.toList = []) ∧
    ∀ route, r.route text = some route → route.matched ≠ [] ∧ ∃ i : Nat,
      r.handlers[i]? = some route.handler ∧ ∀ p ∈ route.matched,
        ∃ k ∈ occurrences r.keywords none 0 text.toList, k.handler = i ∧ k.phrase = p := by
  unfold Router.route
  generalize occurrences r.keywords none 0 text.toList = found at h
  dsimp only
  constructor
  · rw [best?_eq_none_iff, List.eq_nil_iff_forall_not_mem, List.eq_nil_iff_forall_not_mem]
    constructor
    · intro hnone k hk
      obtain ⟨handler, hhandler⟩ := h k hk
      have hmem : k.phrase ∈ phrasesOf found k.handler := mem_phrasesOf.mpr ⟨k, hk, rfl, rfl⟩
      exact hnone ⟨handler, phrasesOf found k.handler⟩
        (mem_routes.mpr ⟨List.ne_nil_of_mem hmem, k.handler, hhandler, rfl⟩)
    · intro hnone route hroute
      obtain ⟨hne, i, -, hmatched⟩ := mem_routes.mp hroute
      obtain ⟨p, hp⟩ := List.exists_mem_of_ne_nil _ hne
      obtain ⟨k, hk, -⟩ := mem_phrasesOf.mp (hmatched ▸ hp)
      exact hnone k hk
  · intro route hroute
    obtain ⟨hne, i, hi, hmatched⟩ := mem_routes.mp (mem_of_best? hroute)
    exact ⟨hne, i, hi, fun p hp => mem_phrasesOf.mp (hmatched ▸ hp)⟩

/-! ## What is found -/

namespace Stretch

variable {o : Stretch cs} {phrase : String}

/-- What is spelled is read: lower case takes the other letters along. -/
theorem Spells.reads (h : o.Spells phrase) (hphrase : Text.lower phrase = phrase) :
    o.Reads phrase := by
  have hlower := Text.lower_eq_of_asciiLower (s := String.ofList o.body) (h.trans hphrase.symm)
  exact hlower.trans hphrase

private theorem Reads.spells (h : o.Reads phrase) (hascii : ∀ c ∈ cs, c.toNat < 0x80) :
    o.Spells phrase := by
  rw [Spells, ← h, Text.lower_of_ascii]
  intro c hc
  apply hascii
  rw [← o.parts]
  simpa using .inr (.inl (by simpa using hc))

end Stretch

namespace LeftmostLongest

variable {phrase : String → Prop} {chosen : List (Stretch cs)}

private theorem eq_of_covers (h : LeftmostLongest phrase chosen) (hne : ∀ p, phrase p → p ≠ "")
    {m o : Stretch cs} (hm : m ∈ chosen) (ho : o ∈ chosen) (hcovers : m.Covers o) : m = o := by
  -- which of the two comes first is not known, so that the relation is made symmetric
  let Apart (x y : Stretch cs) : Prop := x = y ∨ x.stop ≤ y.start ∨ y.stop ≤ x.start
  have hforth : chosen.Pairwise Apart := h.apart.imp fun hle => .inr (.inl hle)
  have hback : chosen.Pairwise (flip Apart) := h.apart.imp fun hle => .inr (.inr hle)
  have happart : Apart m o :=
    hforth.forall_of_forall_of_flip (fun _ _ => .inl rfl) hback hm ho
  obtain ⟨p, hp, hspells⟩ := h.spells o ho
  have hroom : 0 < o.body.length := by
    rw [hspells.length, ← String.length_toList, List.length_pos_iff]
    simpa using hne p hp
  obtain ⟨hstart, hstop, -⟩ := hcovers
  rcases happart with heq | hbefore | hbehind
  · exact heq
  · omega
  · simp only [Stretch.start, Stretch.stop] at hstart hbehind
    omega

private theorem forall_not_isWholeWord_iff (h : LeftmostLongest phrase chosen)
    (hne : ∀ p, phrase p → p ≠ "") : (∀ m ∈ chosen, ¬ m.IsWholeWord) ↔
      ∀ (o : Stretch cs) (p : String), phrase p → o.Spells p → o.IsWholeWord →
        ∃ m ∈ chosen, m.Covers o ∧ ¬ m.IsWholeWord := by
  constructor
  · intro hnone o p hp ho hwhole
    obtain ⟨m, hm, hcovers⟩ := h.covers o p hp ho
    exact ⟨m, hm, hcovers, hnone m hm⟩
  · intro hhidden m hm hwhole
    obtain ⟨p, hp, hspells⟩ := h.spells m hm
    obtain ⟨n, hn, hcovers, hnot⟩ := hhidden m p hp hspells hwhole
    rw [h.eq_of_covers hne hn hm hcovers] at hnot
    exact hnot hwhole

end LeftmostLongest

private theorem exists_chosen (calls : List (String × List String)) (text : String) :
    ∃ chosen : List (Stretch text.toList),
      LeftmostLongest (fun p => ∃ handler, Adds calls handler p) chosen ∧
      ((ofCalls calls).route text = none ↔ ∀ m ∈ chosen, ¬ m.IsWholeWord) ∧
      ∀ route, (ofCalls calls).route text = some route → route.matched ≠ [] ∧
        ∀ p ∈ route.matched, Adds calls route.handler p ∧
          ∃ o : Stretch text.toList, o.Reads p ∧ o.IsWholeWord := by
  have hne : ∀ k ∈ (ofCalls calls).keywords, k.phrase ≠ "" := by
    intro k hk
    obtain ⟨handler, -, hadds⟩ := adds_of_mem hk
    exact hadds.1
  obtain ⟨chosen, hscan⟩ := exists_scanned hne (List.nil_append text.toList) (Nat.zero_le _)
  obtain ⟨hnone, hroute⟩ := route_spec (ofCalls calls) text fun k hk => by
    obtain ⟨handler, hhandler, -⟩ := adds_of_mem (hscan.whole k hk).1
    exact ⟨handler, hhandler⟩
  refine ⟨chosen, ⟨?_, hscan.apart, ?_⟩, ?_, ?_⟩
  · intro m hm
    obtain ⟨k, hk, hspells⟩ := hscan.spells m hm
    obtain ⟨handler, -, hadds⟩ := adds_of_mem hk
    exact ⟨k.phrase, ⟨handler, hadds⟩, hspells⟩
  · rintro o p ⟨handler, hadds⟩ ho
    obtain ⟨k, hk, rfl⟩ := exists_mem_of_adds hadds
    exact hscan.covers o (Nat.zero_le _) k hk ho
  · rw [hnone]
    constructor
    · intro hnil m hm hwhole
      exact hscan.found_ne_nil m hm hwhole hnil
    · intro hnot
      rw [List.eq_nil_iff_forall_not_mem]
      intro k hk
      obtain ⟨-, m, hm, hwhole, -⟩ := hscan.whole k hk
      exact hnot m hm hwhole
  · intro route hr
    obtain ⟨hmatched, i, hi, hfound⟩ := hroute route hr
    refine ⟨hmatched, fun p hp => ?_⟩
    obtain ⟨k, hk, rfl, rfl⟩ := hfound p hp
    obtain ⟨hmem, m, -, hwhole, hspells⟩ := hscan.whole k hk
    obtain ⟨handler, hhandler, hadds⟩ := adds_of_mem hmem
    obtain rfl : handler = route.handler := Option.some.inj (hhandler.symm.trans hi)
    exact ⟨hadds, m, hspells.reads hadds.lower, hwhole⟩

/-- A phrase that was added stands in the text as a whole word, in any case. -/
def Present (calls : List (String × List String)) (text : String) : Prop :=
  ∃ handler p, Adds calls handler p ∧ ∃ o : Stretch text.toList, o.Reads p ∧ o.IsWholeWord

/-- A text goes nowhere just if every whole word in it that reads like a phrase is missed: it has a
capital letter beyond ASCII, or it begins within a match that is part of a longer word. And what is
reported of a handler was added for it and stands in the text as a whole word. -/
theorem route_whole_words (calls : List (String × List String)) (text : String) :
    ∃ chosen : List (Stretch text.toList),
      LeftmostLongest (fun p => ∃ handler, Adds calls handler p) chosen ∧
      ((ofCalls calls).route text = none ↔
        ∀ (o : Stretch text.toList) (handler p : String), Adds calls handler p → o.Reads p →
          o.IsWholeWord → ¬ o.Spells p ∨ ∃ m ∈ chosen, m.Covers o ∧ ¬ m.IsWholeWord) ∧
      ∀ route, (ofCalls calls).route text = some route → route.matched ≠ [] ∧
        ∀ p ∈ route.matched, Adds calls route.handler p ∧
          ∃ o : Stretch text.toList, o.Reads p ∧ o.IsWholeWord := by
  obtain ⟨chosen, hchosen, hnone, hroute⟩ := exists_chosen calls text
  refine ⟨chosen, hchosen, ?_, hroute⟩
  rw [hnone, hchosen.forall_not_isWholeWord_iff fun p ⟨_, hadds⟩ => hadds.1]
  constructor
  · intro hhidden o handler p hadds hreads hwhole
    rw [← imp_iff_not_or]
    exact fun hspells => hhidden o p ⟨handler, hadds⟩ hspells hwhole
  · rintro hhidden o p ⟨handler, hadds⟩ hspells hwhole
    have hmissed := hhidden o handler p hadds (hspells.reads hadds.lower) hwhole
    exact hmissed.resolve_left (not_not_intro hspells)

/-- The phrase `e-mail` is dropped and has used up the word `mail`; and the router keeps a phrase in
lower case, which the text does not spell. -/
theorem route_misses_mail :
    (ofCalls [("email", ["e-mail", "mail"])]).route "the-mail" = none ∧
      Present [("email", ["e-mail", "mail"])] "the-mail" ∧
      (ofCalls [("season", ["ÉTÉ"])]).route "ÉTÉ" = none ∧
      Present [("season", ["ÉTÉ"])] "ÉTÉ" := by
  refine ⟨by decide +kernel, ⟨"email", "mail", ?_, ?_⟩, by decide +kernel,
    ⟨"season", "été", ?_, ?_⟩⟩
  · exact ⟨by decide, ["e-mail", "mail"], by simp, "mail", by simp, by decide +kernel⟩
  · refine ⟨⟨"the-".toList, "mail".toList, [], by decide⟩, ?_, ?_, nofun⟩
    · unfold Stretch.Reads
      decide +kernel
    · intro c hc
      obtain rfl : '-' = c := Option.some.inj hc
      decide +kernel
  · exact ⟨by decide, ["ÉTÉ"], by simp, "ÉTÉ", by simp, by decide +kernel⟩
  · refine ⟨⟨[], "ÉTÉ".toList, [], by decide⟩, ?_, nofun, nofun⟩
    unfold Stretch.Reads
    decide +kernel

/-! ## Phrases of one word -/

private theorem isWordPart_toLower_of_lt : ∀ n < 0x80,
    isWordPart (Char.ofNat n).toLower = isWordPart (Char.ofNat n) := by
  decide +kernel

private theorem isWordPart_toLower (c : Char) : isWordPart c.toLower = isWordPart c := by
  by_cases h : c.toNat < 0x80
  · have hlower := isWordPart_toLower_of_lt c.toNat h
    rwa [Char.ofNat_toNat] at hlower
  · rw [Text.toLower_of_not_ascii h]

namespace Stretch

variable {m o : Stretch cs}

private theorem isWordPart_of_spells {phrase : String} (hm : m.Spells phrase)
    (hword : ∀ c ∈ phrase.toList, isWordPart c = true) {i : Nat} (hstart : m.start ≤ i)
    (hstop : i < m.stop) : ∃ c, cs[i]? = some c ∧ isWordPart c = true := by
  have hlt : i - m.front.length < m.body.length := by
    simp only [start, stop] at hstart hstop
    omega
  refine ⟨m.body[i - m.front.length], ?_, ?_⟩
  · have hwithin : cs[i]? = m.body[i - m.front.length]? := by
      rw [← congrArg (·[i]?) m.parts, List.getElem?_append_right hstart,
        List.getElem?_append_left hlt]
    rw [hwithin, List.getElem?_eq_getElem hlt]
  · rw [← isWordPart_toLower]
    apply hword
    rw [← spells_iff.mp hm]
    exact List.mem_map_of_mem (List.getElem_mem hlt)

private theorem getLast?_front (o : Stretch cs) {c : Char} :
    o.front.getLast? = some c ↔ ∃ i, i + 1 = o.start ∧ cs[i]? = some c := by
  have hfront {i : Nat} (hi : i + 1 = o.start) : cs[i]? = o.front.getLast? := by
    rw [start] at hi
    rw [← congrArg (·[i]?) o.parts, List.getElem?_append_left (by omega),
      List.getLast?_eq_getElem?, ← hi, Nat.add_sub_cancel]
  constructor
  · intro h
    have hne : o.front ≠ [] := by
      intro hnil
      rw [hnil] at h
      cases h
    have hpos : 0 < o.start := List.length_pos_of_ne_nil hne
    exact ⟨o.start - 1, by omega, (hfront (by omega)).trans h⟩
  · rintro ⟨i, hi, hc⟩
    exact (hfront hi).symm.trans hc

private theorem head?_back (o : Stretch cs) : o.back.head? = cs[o.stop]? := by
  have hstop : o.stop = (o.front ++ o.body).length := by rw [stop, List.length_append]
  rw [← congrArg (·[o.stop]?) o.parts, ← List.append_assoc, List.getElem?_append_right hstop.ge,
    hstop, Nat.sub_self, List.head?_eq_getElem?]

private theorem isWholeWord_congr (hstart : m.start = o.start) (hstop : m.stop = o.stop) :
    m.IsWholeWord ↔ o.IsWholeWord := by
  simp only [IsWholeWord, Option.mem_def, getLast?_front, head?_back, hstart, hstop]

private theorem IsWholeWord.of_covers (h : o.IsWholeWord) {phrase : String} (hm : m.Spells phrase)
    (hword : ∀ c ∈ phrase.toList, isWordPart c = true) (hcovers : m.Covers o) :
    m.IsWholeWord := by
  obtain ⟨hle, hlt, hlonger⟩ := hcovers
  have hstart : m.start = o.start := by
    by_contra hne
    obtain ⟨c, hc, hpart⟩ :=
      isWordPart_of_spells hm hword (show m.start ≤ o.start - 1 by omega) (by omega)
    have hfront := h.1 c (o.getLast?_front.mpr ⟨_, by omega, hc⟩)
    simp [hpart] at hfront
  have hstop : m.stop = o.stop := by
    by_contra hne
    have hshorter := hlonger hstart
    have hroom : o.start ≤ o.stop := Nat.le_add_right _ _
    obtain ⟨c, hc, hpart⟩ :=
      isWordPart_of_spells hm hword (show m.start ≤ o.stop by omega) (by omega)
    have hback := h.2 c (o.head?_back.trans hc)
    simp [hpart] at hback
  exact (isWholeWord_congr hstart hstop).mpr h

end Stretch

/-- In an ASCII text phrases of letters, digits and underscores are found wherever they stand. -/
theorem route_eq_none_iff (hword : ∀ handler p, Adds calls handler p →
    ∀ c ∈ p.toList, isWordPart c = true) {text : String}
    (hascii : ∀ c ∈ text.toList, c.toNat < 0x80) :
    (ofCalls calls).route text = none ↔ ¬ Present calls text := by
  obtain ⟨chosen, hchosen, hnone, -⟩ := exists_chosen calls text
  rw [hnone]
  constructor
  · rintro hnot ⟨handler, p, hadds, o, hreads, hwhole⟩
    obtain ⟨m, hm, hcovers⟩ := hchosen.covers o p ⟨handler, hadds⟩ (hreads.spells hascii)
    obtain ⟨q, ⟨owner, howner⟩, hspells⟩ := hchosen.spells m hm
    exact hnot m hm (hwhole.of_covers hspells (hword owner q howner) hcovers)
  · intro hnot m hm hwhole
    obtain ⟨p, ⟨handler, hadds⟩, hspells⟩ := hchosen.spells m hm
    exact hnot ⟨handler, p, hadds, m, hspells.reads hadds.lower, hwhole⟩

end Automation.Router
