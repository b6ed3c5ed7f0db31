import Automation.Proofs.Conversation.FollowUp

/-!
# A reply with the name of a parameter

A reply `name: value` is understood if the name is one of the missing ones after it is put in lower
case. The missing names stay as they are, so a name with a capital letter cannot be answered under
its own name. A reply without a value fills nothing, unless only one parameter is missing: it is
then itself taken for the value.
-/

namespace Automation.Reply

variable {missing : List String} {k : String}

/-! ## Characters of names -/

/-- The character means nothing in a reply, and in lower case nothing else. -/
structure NameChar (c : Char) : Prop where
  ascii : c.toNat < 0x80
  solid : Text.isBlank c = false
  apart : isMark c = false ∧ isSeparator c = false
  bare : c ≠ '"'
  lower : c.toLower ≠ ' ' ∧ c.toLower ≠ '-'

private theorem nameChar_of_ascii : ∀ n < 0x80,
    (Text.isAsciiAlphanumeric (Char.ofNat n) || Char.ofNat n == '_') = true →
      let c := Char.ofNat n
      Text.isBlank c = false ∧ (isMark c = false ∧ isSeparator c = false) ∧ c ≠ '"' ∧
        c.toLower ≠ ' ' ∧ c.toLower ≠ '-' := by
  decide +kernel

private theorem toNat_lt_of_isAsciiAlphanumeric {c : Char} (h : Text.isAsciiAlphanumeric c = true) :
    c.toNat < 0x80 := by
  unfold Text.isAsciiAlphanumeric Char.isAlpha Char.isUpper Char.isLower Char.isDigit at h
  simp only [Bool.or_eq_true, Bool.and_eq_true, decide_eq_true_eq, ge_iff_le,
    UInt32.le_iff_toNat_le] at h
  have hval : c.toNat = c.val.toNat := rfl
  have hbounds : 'Z'.val.toNat = 90 ∧ 'z'.val.toNat = 122 ∧ '9'.val.toNat = 57 := ⟨rfl, rfl, rfl⟩
  omega

private theorem nameChar {name : List Char} (h : Placeholder.isKey name = true) :
    ∀ c ∈ name, NameChar c := by
  have hall : ∀ c ∈ name, (Text.isAsciiAlphanumeric c || c == '_') = true := by
    cases name with
    | nil => exact nofun
    | cons d ds =>
      rw [Placeholder.isKey, Bool.and_eq_true, List.all_eq_true] at h
      intro c hc
      rcases List.mem_cons.mp hc with rfl | hc
      · have hfirst := h.1
        simp only [Text.isAsciiAlphanumeric, Bool.or_eq_true] at hfirst ⊢
        tauto
      · exact h.2 c hc
  intro c hc
  have hascii : c.toNat < 0x80 := by
    rcases Bool.or_eq_true_iff.mp (hall c hc) with halnum | hline
    · exact toNat_lt_of_isAsciiAlphanumeric halnum
    · rw [eq_of_beq hline]
      decide
  have hclear := nameChar_of_ascii c.toNat hascii
  rw [Char.ofNat_toNat] at hclear
  obtain ⟨hsolid, hapart, hbare, hlower⟩ := hclear (hall c hc)
  exact ⟨hascii, hsolid, hapart, hbare, hlower⟩

private theorem normalizeKey_of_isKey (h : Placeholder.isKey k.toList = true) :
    normalizeKey k.toList = Text.asciiLower k := by
  have hchars := nameChar h
  have htrim : Text.trimChars k.toList = k.toList :=
    Text.stripChars_of_forall fun c hc => (hchars c hc).solid
  have hkeep : (k.toList.map Char.toLower).map (fun c => if c == ' ' || c == '-' then '_' else c) =
      k.toList.map Char.toLower := by
    rw [List.map_map]
    apply List.map_congr_left
    intro c hc
    simp [(hchars c hc).lower]
  rw [normalizeKey, htrim, String.ofList_toList,
    Text.lower_of_ascii fun c hc => (hchars c hc).ascii, Text.asciiLower, String.toList_ofList,
    hkeep]

/-! ## The part with the name -/

private theorem read_named (h : Placeholder.isKey k.toList = true) (rest : List Char) :
    Filling.read missing {} (k.toList ++ ':' :: rest) =
      if Text.asciiLower k ∈ missing then
        ⟨[(Text.asciiLower k, String.ofList (Text.stripChars (· == '"') (Text.trimChars rest)))],
          some (Text.asciiLower k)⟩
      else {} := by
  have hcut : Text.cutWhere isMark (k.toList ++ ':' :: rest) = some (k.toList, rest) :=
    Text.cutWhere_append_cons (fun c hc => (nameChar h c hc).apart.1) rfl rest
  split
  · next hmem =>
    rw [Filling.read, assignment?_of_cutWhere hcut (by rwa [normalizeKey_of_isKey h]),
      normalizeKey_of_isKey h]
    rfl
  · next hmem =>
    have hnot : ¬ Assigns missing (k.toList ++ ':' :: rest) := by
      rintro ⟨name, value, hother, hassigned⟩
      rw [hcut, Option.some.injEq, Prod.mk.injEq] at hother
      rw [← hother.1, normalizeKey_of_isKey h] at hassigned
      exact hmem hassigned
    rw [Filling.read, assignment?_of_not_assigns hnot]

private theorem whole_named (h : Placeholder.isKey k.toList = true) {rest : List Char}
    (hrest : Whole rest) : Whole (k.toList ++ ':' :: rest) := by
  intro c hc
  rcases List.mem_append.mp hc with hc | hc
  · exact (nameChar h c hc).apart.2
  · rcases List.mem_cons.mp hc with rfl | hc
    · rfl
    · exact hrest c hc

/-! ## A value or none -/

/-- The value can stand behind a name as it is. -/
structure Simple (v : String) : Prop where
  trimmed : Text.trim v = v
  nonempty : v ≠ ""
  clear : ∀ c ∈ v.toList, c ≠ ',' ∧ c ≠ ';' ∧ c ≠ '\n' ∧ c ≠ '"'

private theorem assignments_named (h : Placeholder.isKey k.toList = true) {v : String}
    (hv : Simple v) : assignments missing (k ++ ": " ++ v) =
      if Text.asciiLower k ∈ missing then [(Text.asciiLower k, v)] else [] := by
  have hchars : (k ++ ": " ++ v).toList = k.toList ++ ':' :: ' ' :: v.toList := by simp
  have hrest : Whole (' ' :: v.toList) := by
    intro c hc
    rcases List.mem_cons.mp hc with rfl | hc
    · rfl
    · have hclear := hv.clear c hc
      simp [isSeparator, isLineEnd, hclear]
  have hblank : ∀ c ∈ [' '], Text.isBlank c = true := by decide
  have htrim : Text.trimChars (' ' :: v.toList) = v.toList :=
    (Text.stripChars_append_left hblank v.toList).trans (Text.trimChars_toList hv.trimmed)
  have hquotes : Text.stripChars (· == '"') v.toList = v.toList := by
    apply Text.stripChars_of_forall
    intro c hc
    simpa using (hv.clear c hc).2.2.2
  have hwhole : Whole (k ++ ": " ++ v).toList := by
    rw [hchars]
    exact whole_named h hrest
  rw [hwhole.assignments, hchars, read_named h, htrim, hquotes, String.ofList_toList]
  split <;> rfl

private theorem read_blank {part : List Char} (h : ∀ c ∈ part, Text.isBlank c = true) {f : Filling}
    (hf : f.current = none) : f.read missing part = f := by
  have hnot : ¬ Assigns missing part := by
    rintro ⟨name, value, hcut, -⟩
    obtain ⟨c, hc, hmark⟩ := Text.exists_mem_of_cutWhere hcut
    have hblank := h c hc
    simp only [isMark, Bool.or_eq_true, beq_iff_eq] at hmark
    rcases hmark with rfl | rfl <;> exact absurd hblank (by decide)
  rw [Filling.read, assignment?_of_not_assigns hnot, hf]

private theorem parted_lines (lines : List (List Char)) : Parted (lines.flatMap ('\n' :: ·)) := by
  have hnil : Parted (lines.flatMap ('\n' :: ·) ++ []) := parted_flatMap rfl lines parted_nil
  rwa [List.append_nil] at hnil

private theorem goOn_blank {lines : List (List Char)}
    (h : ∀ line ∈ lines, Whole line ∧ ∀ c ∈ line, Text.isBlank c = true) (f : Filling) :
    (Filling.goOn missing f (lines.flatMap ('\n' :: ·))).values = f.values := by
  induction lines generalizing f with
  | nil => rfl
  | cons line lines ih =>
    have hline := h line (by simp)
    rw [List.flatMap_cons, List.cons_append, Filling.goOn,
      hline.1.readOn_append (parted_lines lines), read_blank hline.2 rfl,
      ih fun l hl => h l (by simp [hl])]
    rfl

private theorem assignments_blank (h : Placeholder.isKey k.toList = true) {b : String}
    (hb : Text.isBlankText b = true) : assignments missing (k ++ ":" ++ b) =
      if Text.asciiLower k ∈ missing then [(Text.asciiLower k, "")] else [] := by
  rw [Text.isBlankText, List.all_eq_true] at hb
  obtain ⟨first, others, -, hlines, hparts⟩ := Text.exists_splitWhere '\n' b.toList
  have hblank : ∀ line ∈ first :: others, Whole line ∧ ∀ c ∈ line, Text.isBlank c = true := by
    intro line hline
    constructor
    · intro c hc
      obtain ⟨hmem, hend⟩ := hparts line hline c hc
      exact (Written.apart_of_isBlank (hb c hmem) hend).2
    · intro c hc
      exact hb c (hparts line hline c hc).1
  obtain ⟨hfirst, hothers⟩ := List.forall_mem_cons.mp hblank
  have hempty : Text.trimChars first = [] := by
    have hnil := Text.stripChars_append_left hfirst.2 []
    rwa [List.append_nil] at hnil
  have hchars : (k ++ ":" ++ b).toList =
      k.toList ++ ':' :: first ++ others.flatMap ('\n' :: ·) := by
    simp [hlines]
  rw [assignments_eq, hchars, (whole_named h hfirst.1).readOn_append (parted_lines others),
    goOn_blank hothers, read_named h, hempty]
  split <;> rfl

/-! ## The whole reply as a value -/

private theorem not_isCancel {value : String} (h : ':' ∈ value.toList) :
    isCancel value = false := by
  have hword : ':' ∈ Text.dropTrailing (fun c => c == '.' || c == '!')
      (Text.trimChars value.toList) :=
    Text.mem_dropTrailing (Text.mem_stripChars h (by decide)) (by decide)
  have hlower := Text.toLower_mem_lowerFrom hword (by decide) []
  have hwords : ∀ word ∈ cancelWords, ':'.toLower ∉ word.toList := by decide
  rw [isCancel, ← Bool.not_eq_true, List.contains_iff_mem]
  intro hmem
  apply hwords _ hmem
  simpa [Text.lower] using hlower

private theorem followUp_bare {text value : String} (hk : k ∈ missing)
    (hnone : nonBlank (assignments missing text) = []) (hvalue : Text.trim text = value)
    (hquotes : '"' ∉ value.toList) (hcolon : ':' ∈ value.toList) :
    followUp text missing = if missing = [k] then [(k, value)] else [] := by
  have hstrip : Text.strip (· == '"') value = value := by
    rw [Text.strip, Text.stripChars_of_forall, String.ofList_toList]
    intro c hc
    have hne : c ≠ '"' := fun he => hquotes (he ▸ hc)
    simpa using hne
  have htrim : Text.trim value = value := by
    rw [← hvalue, Text.trim_trim]
  have hempty : value.isEmpty = false := by
    rw [← Bool.not_eq_true, String.isEmpty_iff]
    rintro rfl
    cases hcolon
  unfold followUp
  rw [hnone]
  split
  · next only _ =>
    obtain rfl : k = only := by simpa using hk
    dsimp only
    rw [hvalue, hstrip, htrim, hempty, not_isCancel hcolon]
    simp
  · next hmany =>
    rw [if_neg]
    intro hone
    exact hmany _ rfl hone

private theorem trim_named (h : Placeholder.isKey k.toList = true) {v : String} (hv : Simple v) :
    Text.trim (k ++ ": " ++ v) = k ++ ": " ++ v := by
  have hname : k.toList ≠ [] := by
    intro hnil
    rw [hnil] at h
    cases h
  have hvalue : v.toList ≠ [] := by simpa using hv.nonempty
  have hends := Text.stripChars_eq_self_iff.mp (Text.trimChars_toList hv.trimmed)
  apply String.toList_injective
  rw [Text.trim, String.toList_ofList]
  apply Text.stripChars_eq_self_iff.mpr
  constructor
  · intro c hc
    rw [String.toList_append, String.toList_append, List.append_assoc,
      List.head?_append_of_ne_nil _ hname] at hc
    exact (nameChar h c (List.mem_of_head? hc)).solid
  · intro c hc
    apply hends.2 c
    rwa [String.toList_append, List.getLast?_append_of_ne_nil _ hvalue] at hc

private theorem trim_blank (h : Placeholder.isKey k.toList = true) {b : String}
    (hb : Text.isBlankText b = true) : Text.trim (k ++ ":" ++ b) = k ++ ":" := by
  have hchars : (k ++ ":" ++ b).toList = (k ++ ":").toList ++ b.toList := by simp
  have hsolid : Text.stripChars Text.isBlank (k ++ ":").toList = (k ++ ":").toList := by
    apply Text.stripChars_of_forall
    have hcolon : ∀ c ∈ ":".toList, Text.isBlank c = false := by decide
    rw [String.toList_append, List.forall_mem_append]
    exact ⟨fun c hc => (nameChar h c hc).solid, hcolon⟩
  rw [Text.trim, Text.trimChars, hchars, Text.stripChars_append_right (List.all_eq_true.mp hb),
    hsolid, String.ofList_toList]

private theorem quote_notMem (h : Placeholder.isKey k.toList = true) : '"' ∉ k.toList := by
  intro hmem
  exact (nameChar h '"' hmem).bare rfl

/-- The name is understood in lower case only. -/
theorem followUp_named (h : Placeholder.isKey k.toList = true) (hk : k ∈ missing) {v : String}
    (hv : Simple v) : followUp (k ++ ": " ++ v) missing =
      if Text.asciiLower k ∈ missing then [(Text.asciiLower k, v)]
      else if missing = [k] then [(k, k ++ ": " ++ v)] else [] := by
  have hassigned : assignments missing (k ++ ": " ++ v) = _ := assignments_named h hv
  split at hassigned
  · next hmem =>
    have hkept : nonBlank [(Text.asciiLower k, v)] = [(Text.asciiLower k, v)] := by
      apply Written.nonBlank_eq_self
      intro p hp
      rw [List.mem_singleton.mp hp]
      exact ⟨hv.trimmed, hv.nonempty⟩
    unfold followUp
    rw [hassigned, hkept, if_pos hmem]
  · next hmem =>
    have hquotes : '"' ∉ v.toList := fun hquote => (hv.clear '"' hquote).2.2.2 rfl
    rw [if_neg hmem]
    apply followUp_bare hk
    · rw [hassigned]
      rfl
    · exact trim_named h hv
    · simp [quote_notMem h, hquotes]
    · simp

/-- A name alone fills nothing, but it is itself a value where just one is missing. -/
theorem followUp_blank (h : Placeholder.isKey k.toList = true) (hk : k ∈ missing) {b : String}
    (hb : Text.isBlankText b = true) :
    followUp (k ++ ":" ++ b) missing = if missing = [k] then [(k, k ++ ":")] else [] := by
  apply followUp_bare hk
  · rw [assignments_blank h hb]
    split
    · rfl
    · rfl
  · exact trim_blank h hb
  · simp [quote_notMem h]
  · simp

/-- A parameter can be answered under its name just if there is no capital letter in the name, and
a reply without a value fills nothing just if another parameter is missing, too. -/
theorem followUp_named_iff (h : Placeholder.isKey k.toList = true) (hk : k ∈ missing) :
    (∀ v, Simple v →
        (followUp (k ++ ": " ++ v) missing = [(k, v)] ↔ ∀ c ∈ k.toList, c.isUpper = false)) ∧
      ∀ b, Text.isBlankText b = true →
        (followUp (k ++ ":" ++ b) missing = [] ↔ missing ≠ [k]) := by
  constructor
  · intro v hv
    rw [followUp_named h hk hv, ← Text.asciiLower_eq_self_iff]
    split
    · simp
    · next hmem =>
      have hlower : Text.asciiLower k ≠ k := by
        intro he
        rw [he] at hmem
        exact hmem hk
      have hlonger : k ++ ": " ++ v ≠ v := by
        intro he
        have hlength := congrArg (fun s => s.toList.length) he
        simp at hlength
        omega
      generalize k ++ ": " ++ v = text at hlonger
      split
      · simp [hlower, hlonger]
      · simp [hlower]
  · intro b hb
    rw [followUp_blank h hk hb]
    split
    · next hone => simp [hone]
    · next hmany => simp [hmany]

theorem followUp_named_iff_project :
    followUp ("project" ++ ": " ++ "Apollo: phase = 2") ["name", "project"] =
        [("project", "Apollo: phase = 2")] ∧
      followUp ("project" ++ ":" ++ " \n\t") ["name", "project"] = [] := by
  have hlegal : Placeholder.isKey "project".toList = true := by decide
  have hmem : "project" ∈ ["name", "project"] := by decide
  constructor
  · have hsimple : Simple "Apollo: phase = 2" := ⟨by decide +kernel, by decide, by decide⟩
    apply ((followUp_named_iff hlegal hmem).1 _ hsimple).mpr
    decide
  · apply ((followUp_named_iff hlegal hmem).2 " \n\t" (by decide)).mpr
    decide

theorem followUp_named_capital :
    (∀ name ∈ ["Name", "project"], Placeholder.isKey name.toList = true) ∧
      Placeholder.isKey "name".toList = true ∧
      followUp "Name: Apollo" ["Name", "project"] = [] ∧
      followUp "name:" ["name"] = [("name", "name:")] := by
  decide +kernel

end Automation.Reply
