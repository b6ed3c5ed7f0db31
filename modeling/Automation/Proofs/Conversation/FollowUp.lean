import Automation.Conversation.Reply
import Automation.Proofs.Entries
import Automation.Proofs.Text
import Mathlib.Data.List.Chain

/-!
# Values in a reply

A reply is read part by part, and what is read gives values to missing parameters only, each
trimmed and not empty. Values that are written as pairs of a name and a value, between commas,
semicolons and line ends in any mixture, are read back as they were written, even if there are
commas in them.
-/

namespace Automation

namespace Entries

variable {α : Type}

private theorem modify_eq_self {m : Entries α} {key : String} (h : key ∉ keys m) (f : α → α) :
    modify m key f = m := by
  induction m with
  | nil => rfl
  | cons x m ih =>
    obtain ⟨k, v⟩ := x
    simp only [keys, List.map_cons, List.mem_cons, not_or] at h
    have hrest := ih h.2
    simp only [modify] at hrest
    simp [modify, Ne.symm h.1, hrest]

private theorem modify_insert {m : Entries α} {key : String} (h : key ∉ keys m) (v : α)
    (f : α → α) : modify (insert m key v) key f = insert m key (f v) := by
  induction m with
  | nil => simp [insert, modify]
  | cons x m ih =>
    obtain ⟨k, u⟩ := x
    have hrest : key ∉ keys m := fun hm => h (List.mem_cons_of_mem _ hm)
    have hk : key ≠ k := fun he => h (by simp [keys, he])
    rw [insert, insert]
    split
    · have hself := modify_eq_self h f
      simp only [modify, List.map_cons, List.cons.injEq] at hself ⊢
      simp [hself]
    · rw [← ih hrest]
      simp [modify, Ne.symm hk]

private theorem keys_modify (m : Entries α) (key : String) (f : α → α) :
    keys (modify m key f) = keys m := by
  simp [keys, modify, Function.comp_def]

private theorem ofList_ne_nil {items : List (String × α)} (h : items ≠ []) : ofList items ≠ [] := by
  obtain ⟨⟨k, v⟩, rest, rfl⟩ := List.exists_cons_of_ne_nil h
  intro hnil
  have hmem : k ∈ keys (ofList ((k, v) :: rest)) := mem_keys_ofList.mpr (by simp)
  simp [hnil, keys] at hmem

end Entries

namespace Reply

/-- What stands between a name and its value. -/
def isMark (c : Char) : Bool := c == ':' || c == '='

/-- What ends a line. -/
def isLineEnd (c : Char) : Bool := c == '\n' || c == ';'

/-- What stands between two parts. -/
def isSeparator (c : Char) : Bool := c == ',' || isLineEnd c

/-- The part gives a value to one of the names. -/
def Assigns (missing : List String) (part : List Char) : Prop :=
  ∃ name value, Text.cutWhere isMark part = some (name, value) ∧ normalizeKey name ∈ missing

variable {missing : List String}

theorem assignment?_of_cutWhere {part name value : List Char}
    (hcut : Text.cutWhere isMark part = some (name, value)) (hname : normalizeKey name ∈ missing) :
    assignment? missing part = some (normalizeKey name,
      String.ofList (Text.stripChars (· == '"') (Text.trimChars value))) := by
  unfold isMark at hcut
  simp [assignment?, hcut, hname]

theorem assignment?_of_not_assigns {part : List Char} (h : ¬ Assigns missing part) :
    assignment? missing part = none := by
  unfold assignment?
  cases hcut : Text.cutWhere (fun c => c == ':' || c == '=') part with
  | none => rfl
  | some p =>
    obtain ⟨name, value⟩ := p
    have hname : normalizeKey name ∉ missing := fun hmem => h ⟨name, value, hcut, hmem⟩
    simp [hname]

private theorem isSome_assignment?_iff {part : List Char} :
    (assignment? missing part).isSome = true ↔ Assigns missing part := by
  constructor
  · intro hsome
    by_contra h
    rw [assignment?_of_not_assigns h] at hsome
    cases hsome
  · rintro ⟨name, value, hcut, hname⟩
    rw [assignment?_of_cutWhere hcut hname]
    rfl

instance (part : List Char) : Decidable (Assigns missing part) :=
  decidable_of_iff _ isSome_assignment?_iff

/-! ## Reading part by part -/

namespace Filling

/-- What is read goes on after a separator; behind a line end no value goes on. -/
def enter (f : Filling) (separator : Char) : Filling :=
  if separator == ',' then f else { f with current := none }

/-- Reads the parts of a line. -/
def readLine (missing : List String) (f : Filling) (line : List Char) : Filling :=
  (Text.splitWhere (· == ',') line).foldl (read missing) f

/-- Reads on from within a line. -/
def readOn (missing : List String) (f : Filling) (cs : List Char) : Filling :=
  match Text.splitWhere isLineEnd cs with
  | [] => f
  | line :: lines =>
    lines.foldl (fun f line => readLine missing { f with current := none } line)
      (readLine missing f line)

/-- Reads on from behind a part. -/
def goOn (missing : List String) (f : Filling) : List Char → Filling
  | [] => f
  | separator :: rest => readOn missing (f.enter separator) rest

end Filling

open Filling

/-- There is nothing more, or a separator comes next. -/
def Parted (cs : List Char) : Prop := ∀ c ∈ cs.head?, isSeparator c = true

theorem parted_nil : Parted [] := nofun

private theorem foldl_readLine_values (lines : List (List Char)) (f : Filling) :
    (lines.foldl (fun f line => readLine missing { f with current := none } line) f).values =
      lines.foldl (fun values line => (readLine missing ⟨values, none⟩ line).values) f.values := by
  induction lines generalizing f with
  | nil => rfl
  | cons line lines ih => exact ih _

theorem assignments_eq (missing : List String) (text : String) :
    assignments missing text = (readOn missing {} text.toList).values := by
  change (Text.splitWhere isLineEnd text.toList).foldl
    (fun values line => (readLine missing ⟨values, none⟩ line).values) [] = _
  rw [readOn]
  cases hlines : Text.splitWhere isLineEnd text.toList with
  | nil => exact absurd hlines (Text.splitWhere_ne_nil _ _)
  | cons line lines => rw [foldl_readLine_values, List.foldl_cons]

/-- A part that is read as one. -/
def Whole (part : List Char) : Prop := ∀ c ∈ part, isSeparator c = false

private theorem Whole.comma {part : List Char} (h : Whole part) :
    ∀ c ∈ part, (c == ',') = false := by
  intro c hc
  have hsep := h c hc
  simp only [isSeparator, Bool.or_eq_false_iff] at hsep
  exact hsep.1

private theorem Whole.lineEnd {part : List Char} (h : Whole part) :
    ∀ c ∈ part, isLineEnd c = false := by
  intro c hc
  have hsep := h c hc
  simp only [isSeparator, Bool.or_eq_false_iff] at hsep
  exact hsep.2

private theorem Whole.readLine_append {part : List Char} (h : Whole part) (f : Filling)
    (rest : List Char) : readLine missing f (part ++ ',' :: rest) =
      readLine missing (read missing f part) rest := by
  rw [readLine, readLine, Text.splitWhere_append_cons h.comma rfl, List.foldl_cons]

private theorem Whole.readLine {part : List Char} (h : Whole part) (f : Filling) :
    readLine missing f part = read missing f part := by
  rw [Filling.readLine, Text.splitWhere_of_forall h.comma]
  rfl

theorem Whole.readOn_append {part tail : List Char} (h : Whole part) (htail : Parted tail)
    (f : Filling) : readOn missing f (part ++ tail) = goOn missing (read missing f part) tail := by
  have hend := h.lineEnd
  cases tail with
  | nil =>
    rw [List.append_nil, readOn, Text.splitWhere_of_forall hend]
    exact h.readLine f
  | cons s rest =>
    have hs : isSeparator s = true := htail s rfl
    rw [goOn]
    by_cases hcomma : s = ','
    · subst hcomma
      have hmore : ∀ c ∈ part ++ [','], isLineEnd c = false := by
        intro c hc
        rcases List.mem_append.mp hc with hc | hc
        · exact hend c hc
        · rw [List.mem_singleton.mp hc]
          rfl
      cases hrest : Text.splitWhere isLineEnd rest with
      | nil => exact absurd hrest (Text.splitWhere_ne_nil _ _)
      | cons line lines =>
        have hsplit := Text.splitWhere_append hmore hrest
        rw [List.append_assoc, List.append_assoc] at hsplit
        rw [readOn, readOn, hrest]
        simp only [List.singleton_append] at hsplit
        rw [hsplit]
        simp only [h.readLine_append]
        rfl
    · have hline : isLineEnd s = true := by simpa [isSeparator, hcomma] using hs
      rw [readOn, Text.splitWhere_append_cons hend hline]
      cases hrest : Text.splitWhere isLineEnd rest with
      | nil => exact absurd hrest (Text.splitWhere_ne_nil _ _)
      | cons line lines =>
        simp only [List.foldl_cons, h.readLine]
        simp [readOn, hrest, enter, hcomma]

theorem Whole.assignments {text : String} (h : Whole text.toList) :
    assignments missing text = (read missing {} text.toList).values := by
  have hread : readOn missing {} (text.toList ++ []) =
      goOn missing (read missing {} text.toList) [] := h.readOn_append parted_nil {}
  rw [List.append_nil, goOn] at hread
  rw [assignments_eq, hread]

/-! ## A value with commas -/

private theorem read_of_not_assigns {part : List Char} (h : ¬ Assigns missing part) {f : Filling}
    {name : String} (hcurrent : f.current = some name) :
    read missing f part =
      { f with values := Entries.modify f.values name (· ++ "," ++ String.ofList part) } := by
  simp [Filling.read, assignment?_of_not_assigns h, hcurrent]

theorem parted_flatMap {separator : Char} (hseparator : isSeparator separator = true)
    (parts : List (List Char)) {tail : List Char} (htail : Parted tail) :
    Parted (parts.flatMap (separator :: ·) ++ tail) := by
  cases parts with
  | nil => exact htail
  | cons part parts =>
    intro c hc
    obtain rfl : separator = c := by simpa using hc
    exact hseparator

private theorem goOn_continued {parts : List (List Char)} (hwhole : ∀ part ∈ parts, Whole part)
    (hnot : ∀ part ∈ parts, ¬ Assigns missing part) {tail : List Char} (htail : Parted tail)
    {m : Entries String} {name : String} (hname : name ∉ Entries.keys m) (value : List Char) :
    goOn missing ⟨Entries.insert m name (String.ofList value), some name⟩
        (parts.flatMap (',' :: ·) ++ tail) =
      goOn missing ⟨Entries.insert m name (String.ofList (value ++ parts.flatMap (',' :: ·))),
        some name⟩ tail := by
  induction parts generalizing value with
  | nil => simp
  | cons part parts ih =>
    have hpart : Whole part := hwhole part (by simp)
    have hmodify : Entries.modify (Entries.insert m name (String.ofList value)) name
          (· ++ "," ++ String.ofList part) =
        Entries.insert m name (String.ofList (value ++ ',' :: part)) := by
      rw [Entries.modify_insert hname]
      congr 1
      apply String.toList_injective
      simp
    rw [List.flatMap_cons, List.append_assoc, List.cons_append, goOn]
    change readOn missing ⟨Entries.insert m name (String.ofList value), some name⟩
      (part ++ (parts.flatMap (',' :: ·) ++ tail)) = _
    rw [hpart.readOn_append (parted_flatMap rfl parts htail),
      read_of_not_assigns (hnot part (by simp)) rfl]
    dsimp only
    rw [hmodify, ih (fun q hq => hwhole q (by simp [hq])) (fun q hq => hnot q (by simp [hq]))]
    simp

/-! ## Pairs as they are written -/

/-- A name and a value, the mark between them, and the blanks around the name and in front of the
value. -/
structure Written where
  lead : List Char := []
  name : String
  gap : List Char := []
  mark : Char := ':'
  space : List Char := [' ']
  value : String

namespace Written

/-- What stands before the value. -/
def label (w : Written) : List Char := w.lead ++ w.name.toList ++ w.gap

def chars (w : Written) : List Char := w.label ++ w.mark :: (w.space ++ w.value.toList)

/-- The pairs one after the other, each with what stands before it; the first stands alone. -/
def joined : List (Char × Written) → List Char
  | [] => []
  | (_, w) :: rest => w.chars ++ rest.flatMap fun x => x.1 :: x.2.chars

/-- The pair gives a value to a missing parameter, and nothing in it can be read otherwise. -/
@[mk_iff]
structure Plain (missing : List String) (w : Written) : Prop where
  asked : w.name ∈ missing
  normal : normalizeKey w.name.toList = w.name
  name : ∀ c ∈ w.name.toList, isMark c = false ∧ isSeparator c = false
  mark : w.mark = ':' ∨ w.mark = '='
  blanks : ∀ c ∈ w.lead ++ w.gap ++ w.space, Text.isBlank c = true ∧ c ≠ '\n'
  trimmed : Text.trim w.value = w.value
  nonempty : w.value ≠ ""
  value : ∀ c ∈ w.value.toList, c ≠ '"' ∧ c ≠ ';' ∧ c ≠ '\n'
  /-- There is no blank before a comma. -/
  tight : w.value.toList.IsChain fun c d => d = ',' → Text.isBlank c = false
  /-- What stands behind a comma is not a pair itself. -/
  continued : ∀ part ∈ (Text.splitWhere (· == ',') w.value.toList).tail, ¬ Assigns missing part

instance (w : Written) : Decidable (w.Plain missing) := decidable_of_iff' _ (plain_iff missing w)

theorem apart_of_isBlank {c : Char} (h : Text.isBlank c = true) (hc : c ≠ '\n') :
    isMark c = false ∧ isSeparator c = false := by
  have hne {d : Char} (hd : Text.isBlank d = false) : c ≠ d := by
    rintro rfl
    rw [hd] at h
    cases h
  have hcolon := hne (show Text.isBlank ':' = false by decide)
  have hequals := hne (show Text.isBlank '=' = false by decide)
  have hcomma := hne (show Text.isBlank ',' = false by decide)
  have hsemicolon := hne (show Text.isBlank ';' = false by decide)
  simp [isMark, isSeparator, isLineEnd, hcolon, hequals, hcomma, hsemicolon, hc]

namespace Plain

variable {w : Written} (h : w.Plain missing)
include h

private theorem label_apart : ∀ c ∈ w.label, isMark c = false ∧ isSeparator c = false := by
  have hblank : ∀ c ∈ w.lead ++ w.gap ++ w.space, isMark c = false ∧ isSeparator c = false := by
    intro c hc
    exact apart_of_isBlank (h.blanks c hc).1 (h.blanks c hc).2
  simp only [label, List.forall_mem_append] at hblank ⊢
  exact ⟨⟨hblank.1.1, h.name⟩, hblank.1.2⟩

private theorem normalizeKey_label : normalizeKey w.label = w.name := by
  have hblank : ∀ c ∈ w.lead ++ w.gap ++ w.space, Text.isBlank c = true := fun c hc =>
    (h.blanks c hc).1
  simp only [List.forall_mem_append] at hblank
  have htrim : Text.trimChars w.label = Text.trimChars w.name.toList := by
    rw [label, Text.trimChars, Text.stripChars_append_right hblank.1.2,
      Text.stripChars_append_left hblank.1.1]
    rfl
  have hnormal := h.normal
  rw [normalizeKey] at hnormal ⊢
  rw [htrim, hnormal]

private theorem isMark_mark : isMark w.mark = true ∧ isSeparator w.mark = false := by
  rcases h.mark with hmark | hmark <;> rw [hmark] <;> decide

private theorem trimChars_first {first : List Char} {others : List (List Char)}
    (hvalue : w.value.toList = first ++ others.flatMap (',' :: ·)) :
    Text.trimChars first = first := by
  have hends := Text.stripChars_eq_self_iff.mp (Text.trimChars_toList h.trimmed)
  apply Text.stripChars_eq_self_iff.mpr
  constructor
  · intro c hc
    apply hends.1 c
    rw [hvalue, List.head?_append, hc]
    rfl
  · intro c hc
    cases others with
    | nil =>
      apply hends.2 c
      rw [hvalue, List.flatMap_nil, List.append_nil, hc]
    | cons other others =>
      obtain ⟨ys, rfl⟩ := List.getLast?_eq_some_iff.mp hc
      have htight := h.tight
      rw [hvalue, List.flatMap_cons, List.append_assoc, List.singleton_append, List.cons_append,
        List.isChain_append_cons_cons] at htight
      exact htight.2.1 rfl

private theorem read_first {first : List Char} {others : List (List Char)}
    (hvalue : w.value.toList = first ++ others.flatMap (',' :: ·)) (f : Filling) :
    Filling.read missing f (w.label ++ w.mark :: (w.space ++ first)) =
      ⟨Entries.insert f.values w.name (String.ofList first), some w.name⟩ := by
  have hcut : Text.cutWhere isMark (w.label ++ w.mark :: (w.space ++ first)) =
      some (w.label, w.space ++ first) :=
    Text.cutWhere_append_cons (fun c hc => (h.label_apart c hc).1) h.isMark_mark.1 _
  have hspace : ∀ c ∈ w.space, Text.isBlank c = true := fun c hc =>
    (h.blanks c (by simp [hc])).1
  have htrim : Text.trimChars (w.space ++ first) = first := by
    rw [Text.trimChars, Text.stripChars_append_left hspace]
    exact h.trimChars_first hvalue
  have hquotes : Text.stripChars (· == '"') first = first := by
    apply Text.stripChars_of_forall
    intro c hc
    have hne := (h.value c (by rw [hvalue]; simp [hc])).1
    simpa using hne
  have hassigned := assignment?_of_cutWhere hcut (by rw [h.normalizeKey_label]; exact h.asked)
  rw [Filling.read, hassigned, htrim, hquotes, h.normalizeKey_label]

private theorem whole_first {first : List Char} (hfirst : Whole first) :
    Whole (w.label ++ w.mark :: (w.space ++ first)) := by
  have hspace : ∀ c ∈ w.space, isSeparator c = false := by
    intro c hc
    have hblank := h.blanks c (by simp [hc])
    exact (apart_of_isBlank hblank.1 hblank.2).2
  intro c hc
  simp only [List.mem_append, List.mem_cons] at hc
  rcases hc with hc | rfl | hc | hc
  · exact (h.label_apart c hc).2
  · exact h.isMark_mark.2
  · exact hspace c hc
  · exact hfirst c hc

private theorem readOn {tail : List Char} (htail : Parted tail) {f : Filling}
    (hname : w.name ∉ Entries.keys f.values) :
    Filling.readOn missing f (w.chars ++ tail) =
      Filling.goOn missing ⟨Entries.insert f.values w.name w.value, some w.name⟩ tail := by
  obtain ⟨first, others, hsplit, hvalue, hparts⟩ := Text.exists_splitWhere ',' w.value.toList
  have hwhole : ∀ part ∈ first :: others, Whole part := by
    intro part hpart c hc
    obtain ⟨hmem, hcomma⟩ := hparts part hpart c hc
    have hclear := h.value c hmem
    simp [isSeparator, isLineEnd, hclear.2, hcomma]
  obtain ⟨hfirst, hothers⟩ := List.forall_mem_cons.mp hwhole
  have hcontinued : ∀ part ∈ others, ¬ Assigns missing part := by
    have hall := h.continued
    rw [hsplit] at hall
    exact hall
  have hchars : w.chars ++ tail = (w.label ++ w.mark :: (w.space ++ first)) ++
      (others.flatMap (',' :: ·) ++ tail) := by
    rw [chars, hvalue]
    simp
  rw [hchars, (h.whole_first hfirst).readOn_append (parted_flatMap rfl others htail),
    h.read_first hvalue, goOn_continued hothers hcontinued htail hname, ← hvalue,
    String.ofList_toList]

end Plain

/-! ## All pairs -/

/-- Each pair is plain and comes behind a separator, and no name comes twice. -/
@[mk_iff]
structure Orderly (missing : List String) (ws : List (Char × Written)) : Prop where
  plain : ∀ x ∈ ws, isSeparator x.1 = true ∧ x.2.Plain missing
  nodup : (ws.map fun x => x.2.name).Nodup

instance (ws : List (Char × Written)) : Decidable (Orderly missing ws) :=
  decidable_of_iff' _ (orderly_iff missing ws)

/-- What is written down. -/
def pairs (ws : List (Char × Written)) : List (String × String) :=
  ws.map fun x => (x.2.name, x.2.value)

private theorem parted_rest {ws : List (Char × Written)}
    (hplain : ∀ x ∈ ws, isSeparator x.1 = true ∧ x.2.Plain missing) :
    Parted (ws.flatMap fun x => x.1 :: x.2.chars) := by
  cases ws with
  | nil => exact parted_nil
  | cons x ws =>
    intro c hc
    obtain rfl : x.1 = c := by simpa using hc
    exact (hplain x (by simp)).1

private theorem goOn_rest {ws : List (Char × Written)}
    (hplain : ∀ x ∈ ws, isSeparator x.1 = true ∧ x.2.Plain missing)
    (before : List (String × String))
    (hnodup : (before.map Prod.fst ++ ws.map (·.2.name)).Nodup)
    {f : Filling} (hf : f.values = Entries.ofList before) :
    (Filling.goOn missing f (ws.flatMap fun x => x.1 :: x.2.chars)).values =
      Entries.ofList (before ++ pairs ws) := by
  induction ws generalizing before f with
  | nil => simpa [Filling.goOn, pairs] using hf
  | cons x ws ih =>
    obtain ⟨s, w⟩ := x
    have hw : w.Plain missing := (hplain (s, w) (by simp)).2
    have hrest : ∀ x ∈ ws, isSeparator x.1 = true ∧ x.2.Plain missing := fun x hx =>
      hplain x (by simp [hx])
    have henter : (f.enter s).values = Entries.ofList before := by
      rw [← hf, Filling.enter]
      split <;> rfl
    have hname : w.name ∉ Entries.keys (f.enter s).values := by
      rw [henter, Entries.mem_keys_ofList]
      intro hmem
      exact (List.nodup_append.mp hnodup).2.2 w.name hmem w.name (by simp) rfl
    rw [List.flatMap_cons, List.cons_append, Filling.goOn, hw.readOn (parted_rest hrest) hname,
      ih hrest (before ++ [(w.name, w.value)]) (by simpa using hnodup)
        (by rw [Entries.ofList_concat, henter])]
    simp [pairs]

private theorem Orderly.assignments {ws : List (Char × Written)} (h : Orderly missing ws) :
    assignments missing (String.ofList (joined ws)) = Entries.ofList (pairs ws) := by
  rw [assignments_eq, String.toList_ofList]
  cases ws with
  | nil => rfl
  | cons x ws =>
    obtain ⟨s, w⟩ := x
    have hrest : ∀ x ∈ ws, isSeparator x.1 = true ∧ x.2.Plain missing := fun x hx =>
      h.plain x (by simp [hx])
    rw [joined, (h.plain (s, w) (by simp)).2.readOn (parted_rest hrest) (by simp [Entries.keys])]
    exact goOn_rest hrest [(w.name, w.value)] (by simpa using h.nodup) rfl

theorem nonBlank_eq_self {m : Entries String} (h : ∀ p ∈ m, Text.trim p.2 = p.2 ∧ p.2 ≠ "") :
    nonBlank m = m := by
  have hmap : Entries.mapValues Text.trim m = m := by
    conv_rhs => rw [← List.map_id m]
    apply List.map_congr_left
    intro p hp
    exact Prod.ext rfl (h p hp).1
  rw [nonBlank, hmap, List.filter_eq_self]
  intro p hp
  simpa using (h p hp).2

/-- Pairs are read back as they were written. -/
theorem Orderly.followUp {ws : List (Char × Written)} (h : Orderly missing ws) :
    followUp (String.ofList (joined ws)) missing = Entries.ofList (pairs ws) := by
  have hvalues : ∀ p ∈ Entries.ofList (pairs ws), Text.trim p.2 = p.2 ∧ p.2 ≠ "" := by
    intro p hp
    obtain ⟨x, hx, rfl⟩ := List.mem_map.mp (Entries.mem_of_mem_ofList hp)
    have hplain := (h.plain x hx).2
    exact ⟨hplain.trimmed, hplain.nonempty⟩
  unfold Reply.followUp
  rw [h.assignments, nonBlank_eq_self hvalues]
  split
  · next hnil =>
    cases ws with
    | nil => simp [joined, Text.trim, Text.strip, Text.trimChars, Text.stripChars,
        Text.dropTrailing, hnil]
    | cons x ws => exact absurd hnil (Entries.ofList_ne_nil (by simp [pairs]))
  · rfl

end Written

/-! ## What a reply gives -/

private theorem keys_read {f : Filling} (h : Entries.keys f.values ⊆ missing) (part : List Char) :
    Entries.keys (f.read missing part).values ⊆ missing := by
  rw [Filling.read]
  cases hassigned : assignment? missing part with
  | some p =>
    obtain ⟨name, value⟩ := p
    have hname : name ∈ missing := by
      by_cases hassigns : Assigns missing part
      · obtain ⟨label, rest, hcut, hmem⟩ := hassigns
        rw [assignment?_of_cutWhere hcut hmem, Option.some.injEq, Prod.mk.injEq] at hassigned
        rw [← hassigned.1]
        exact hmem
      · rw [assignment?_of_not_assigns hassigns] at hassigned
        cases hassigned
    intro key hkey
    rcases Entries.mem_keys_insert.mp hkey with rfl | hkey
    · exact hname
    · exact h hkey
  | none =>
    cases f.current with
    | none => exact h
    | some name =>
      dsimp only
      rw [Entries.keys_modify]
      exact h

private theorem keys_assignments (missing : List String) (text : String) :
    Entries.keys (assignments missing text) ⊆ missing := by
  have hline {values : Entries String} (h : Entries.keys values ⊆ missing) (line : List Char) :
      Entries.keys (readLine missing ⟨values, none⟩ line).values ⊆ missing := by
    refine List.foldlRecOn _ _ (motive := fun f : Filling => Entries.keys f.values ⊆ missing) h ?_
    intro f hf part _
    exact keys_read hf part
  refine List.foldlRecOn _ _ (motive := fun values => Entries.keys values ⊆ missing)
    (List.nil_subset _) ?_
  intro values hvalues line _
  exact hline hvalues line

private theorem mem_nonBlank {m : Entries String} {p : String × String} (hp : p ∈ nonBlank m) :
    p.1 ∈ Entries.keys m ∧ Text.trim p.2 = p.2 ∧ p.2 ≠ "" := by
  obtain ⟨hmem, hvalue⟩ := List.mem_filter.mp hp
  obtain ⟨⟨name, value⟩, hpair, rfl⟩ := List.mem_map.mp hmem
  refine ⟨List.mem_map.mpr ⟨_, hpair, rfl⟩, Text.trim_trim value, ?_⟩
  simpa using hvalue

private theorem of_mem_followUp {text : String} {p : String × String}
    (hp : p ∈ followUp text missing) : p.1 ∈ missing ∧ Text.trim p.2 = p.2 ∧ p.2 ≠ "" := by
  unfold followUp at hp
  split at hp
  · -- the whole text is taken as a value
    dsimp only at hp
    split at hp
    · cases hp
    · next hbare =>
      simp only [Bool.or_eq_true, not_or, String.isEmpty_iff] at hbare
      rw [List.mem_singleton.mp hp]
      exact ⟨by simp, Text.trim_trim _, hbare.1⟩
  · obtain ⟨hkey, hvalue⟩ := mem_nonBlank hp
    exact ⟨keys_assignments _ text hkey, hvalue⟩

/-- A reply gives values to missing parameters only, each trimmed and not empty, and pairs that are
written down are read back as they are, whatever separates them and with all commas in their
values. -/
theorem followUp_reads_back (missing : List String) :
    (∀ text, ∀ p ∈ followUp text missing,
      p.1 ∈ missing ∧ Text.trim p.2 = p.2 ∧ p.2 ≠ "") ∧
    ∀ ws, Written.Orderly missing ws →
      followUp (String.ofList (Written.joined ws)) missing =
        Entries.ofList (Written.pairs ws) := by
  constructor
  · intro text p hp
    exact of_mem_followUp hp
  · intro ws h
    exact h.followUp

/-- Three pairs with all marks and separators. -/
def Written.three : List (Char × Written) :=
  [(',', { name := "recipient", value := "a@x.io, b@y.io" }),
   (',', { lead := [' '], name := "due_date", gap := [' '], mark := '=', value := "at 9:30" }),
   ('\n', { name := "project", value := "Apollo" })]

theorem followUp_reads_back_three :
    String.ofList (Written.joined Written.three) =
        "recipient: a@x.io, b@y.io, due_date = at 9:30\nproject: Apollo" ∧
      followUp (String.ofList (Written.joined Written.three))
          ["due_date", "project", "recipient"] =
        [("due_date", "at 9:30"), ("project", "Apollo"), ("recipient", "a@x.io, b@y.io")] := by
  have h : Written.Orderly ["due_date", "project", "recipient"] Written.three := by
    decide +kernel
  constructor
  · decide +kernel
  · rw [(followUp_reads_back _).2 _ h]
    decide +kernel

end Reply

end Automation
