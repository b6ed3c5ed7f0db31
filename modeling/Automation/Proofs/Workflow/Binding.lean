import Automation.Workflow.Placeholder
import Mathlib.Data.List.Basic

/-!
# What binding leaves open

If no parameter and no default opens braces, the placeholders of a bound text or value are
those of the original that have neither a parameter nor a default, in their order: nothing else
becomes a placeholder, and nothing else ceases to be one.
-/

namespace Automation

namespace Text

variable {mark : List Char} {w cs before rest : List Char}

/-- Put before any text the characters let its first mark be the first one. -/
def Clear (mark w : List Char) : Prop :=
  ∀ cs, cutAt mark (w ++ cs) = (cutAt mark cs).map fun p => (w ++ p.1, p.2)

private theorem Clear.cons {d : Char} (h : Clear mark w)
    (hd : ∀ cs, dropLead? mark (d :: (w ++ cs)) = none) : Clear mark (d :: w) := by
  intro cs
  rw [List.cons_append, cutAt, hd, h, Option.map_map]
  rfl

theorem clear_of_notMem {c : Char} (h : c ∉ w) : Clear (c :: mark) w := by
  induction w with
  | nil => intro cs; simp
  | cons d w ih =>
    obtain ⟨hd, hw⟩ := not_or.mp (mt List.mem_cons.mpr h)
    exact (ih hw).cons fun cs => by rw [dropLead?, if_neg hd]

private theorem dropLead?_double {c d e : Char} {w : List Char}
    (h : dropLead? [c, c] (d :: e :: w) = none)
    (cs : List Char) : dropLead? [c, c] (d :: e :: cs) = none := by
  by_cases hd : c = d <;> simp_all [dropLead?]

private theorem clear_of_cutAt {c : Char} (h : cutAt [c, c] cs = some (before, rest)) :
    Clear [c, c] before := by
  induction before generalizing cs with
  | nil => intro cs; simp
  | cons d before ih =>
    have heq : cs = d :: (before ++ [c, c] ++ rest) := eq_append_of_cutAt h
    subst heq
    unfold cutAt at h
    split at h
    · cases h
    · next hnone =>
      obtain ⟨⟨l, r⟩, hcut, hlr⟩ := Option.map_eq_some_iff.mp h
      cases hlr
      refine (ih hcut).cons fun cs' => ?_
      -- the character may stand once, but then another one follows that is not the end
      cases before with
      | nil =>
        by_cases hd : c = d
        · simp [dropLead?, hd] at hnone
        · simp [dropLead?, hd]
      | cons e before => exact dropLead?_double hnone _

/-- The characters open no braces, whatever follows them: no two opening braces stand next to each
other, and none stands at the end. -/
def Shut (w : List Char) : Prop := cutAt Piece.opening w = none ∧ w.getLast? ≠ some '\x7b'

instance (w : List Char) : Decidable (Shut w) := inferInstanceAs (Decidable (_ ∧ _))

private theorem Shut.clear (h : Shut w) : Clear Piece.opening w := by
  induction w with
  | nil => intro cs; simp
  | cons d w ih =>
    obtain ⟨hcut, hlast⟩ := h
    unfold cutAt at hcut
    split at hcut
    · cases hcut
    · next hnone =>
      rw [Option.map_eq_none_iff] at hcut
      cases w with
      | nil =>
        have hd : d ≠ '\x7b' := by simpa using hlast
        exact Clear.cons (ih ⟨rfl, by simp⟩) fun cs => by simp [Piece.opening, dropLead?, hd.symm]
      | cons e w =>
        rw [List.getLast?_cons_cons] at hlast
        exact (ih ⟨hcut, hlast⟩).cons fun cs => dropLead?_double hnone _

theorem shut_of_notMem (h : '\x7b' ∉ w) : Shut w := by
  refine ⟨?_, fun hlast => h (List.mem_of_getLast? hlast)⟩
  have hclear : Clear Piece.opening w := clear_of_notMem h
  have hcut := hclear []
  rwa [List.append_nil] at hcut

theorem dropLead?_append (lead cs : List Char) : dropLead? lead (lead ++ cs) = some cs := by
  induction lead with
  | nil => rfl
  | cons c lead ih => simpa [dropLead?] using ih

private theorem cutAt_self_append {c : Char} (cs : List Char) :
    cutAt (c :: mark) (c :: mark ++ cs) = some ([], cs) := by
  rw [List.cons_append, cutAt, ← List.cons_append, dropLead?_append]

theorem Clear.cutAt_append {c : Char} (h : Clear (c :: mark) w) (cs : List Char) :
    cutAt (c :: mark) (w ++ (c :: mark ++ cs)) = some (w, cs) := by
  rw [h, cutAt_self_append]
  simp

end Text

namespace Piece

open Text (Clear)

variable {γ : Type} {f : Piece → Option γ} {w inner before after cs : List Char}

/-- What is found in the parts of a text. -/
def found (f : Piece → Option γ) (cs : List Char) : List γ := (ofChars cs).filterMap f

private theorem found_of_none (hf : ∀ w, f (.plain w) = none) (h : first? cs = none) :
    found f cs = [] := by
  unfold found
  rw [ofChars]
  split
  · simp [hf]
  · simp_all

private theorem found_of_some (hf : ∀ w, f (.plain w) = none)
    (h : first? cs = some (before, inner, after)) :
    found f cs = (f (.braced inner)).toList ++ found f after := by
  unfold found
  rw [ofChars]
  split
  · simp_all
  · next b i a heq =>
    rw [h] at heq
    cases heq
    cases hi : f (.braced inner) <;> simp [hf, hi]

private theorem first?_append (h : Clear opening w) (cs : List Char) :
    first? (w ++ cs) = (first? cs).map fun (b, i, a) => (w ++ b, i, a) := by
  unfold first?
  rw [h]
  cases Text.cutAt opening cs with
  | none => rfl
  | some p =>
    obtain ⟨b, r⟩ := p
    cases hr : Text.cutAt closing r with
    | none => simp [hr]
    | some q => simp [hr]

private theorem found_append (hf : ∀ w, f (.plain w) = none) (h : Clear opening w)
    (cs : List Char) : found f (w ++ cs) = found f cs := by
  have hfirst := first?_append h cs
  cases hcs : first? cs with
  | none =>
    rw [hcs] at hfirst
    rw [found_of_none hf hfirst, found_of_none hf hcs]
  | some p =>
    obtain ⟨b, i, a⟩ := p
    rw [hcs] at hfirst
    rw [found_of_some hf hfirst, found_of_some hf hcs]

theorem found_of_shut (hf : ∀ w, f (.plain w) = none) (h : Text.Shut cs) : found f cs = [] :=
  found_of_none hf (by simp [first?, h.1])

private theorem found_braced_append (hf : ∀ w, f (.plain w) = none) (h : Clear closing inner)
    (cs : List Char) :
    found f ((braced inner).chars ++ cs) = (f (.braced inner)).toList ++ found f cs := by
  have hopening : Text.cutAt opening ((braced inner).chars ++ cs) =
      some ([], inner ++ (closing ++ cs)) := by
    rw [chars, List.append_assoc, List.append_assoc]
    exact Text.cutAt_self_append _
  have hclosing : Text.cutAt closing (inner ++ (closing ++ cs)) = some (inner, cs) :=
    h.cutAt_append cs
  have hfirst : first? ((braced inner).chars ++ cs) = some ([], inner, cs) := by
    simp [first?, hopening, hclosing]
  exact found_of_some hf hfirst

private theorem clear_of_first? (h : first? cs = some (before, inner, after)) :
    Clear opening before ∧ Clear closing inner := by
  simp only [first?, Option.bind_eq_bind, Option.bind_eq_some_iff, Prod.exists, Option.pure_def,
    Option.some.injEq, Prod.mk.injEq] at h
  obtain ⟨b, r, hb, i, a, hi, rfl, rfl, rfl⟩ := h
  exact ⟨Text.clear_of_cutAt hb, Text.clear_of_cutAt hi⟩

end Piece

namespace Json.Value

mutual

/-- The texts at the leaves of a value, in order. Keys are not among them. -/
def leaves : Value → List String
  | .string s => [s]
  | .array items => leavesOfItems items
  | .object members => leavesOfMembers members
  | _ => []

def leavesOfItems : List Value → List String
  | [] => []
  | v :: rest => leaves v ++ leavesOfItems rest

def leavesOfMembers : List (String × Value) → List String
  | [] => []
  | (_, v) :: rest => leaves v ++ leavesOfMembers rest

end

end Json.Value

namespace Placeholder

open Json

variable {params : Params}

/-- What the placeholder is replaced by, if anything, opens no braces. -/
def Harmless (params : Params) (q : Placeholder) : Prop :=
  ∀ v, q.value? params = some v → Text.Shut v

instance (params : Params) (q : Placeholder) : Decidable (q.Harmless params) :=
  decidable_of_iff ((q.value? params).all fun v => decide (Text.Shut v))
    (by simp [Harmless, Option.all_eq_true])

theorem harmless_of_shut {q : Placeholder}
    (hparams : ∀ v, Entries.get? params q.key = some v → Text.Shut v.toList)
    (hdefault : ∀ d, q.default = some d → Text.Shut d) : q.Harmless params := by
  intro w hw
  unfold value? at hw
  cases ht : Entries.get? params q.key with
  | some t =>
    rw [ht] at hw
    cases hw
    exact hparams t ht
  | none =>
    rw [ht] at hw
    exact hdefault w hw

/-- The placeholder has neither a parameter nor a default. -/
def isOpen (params : Params) (q : Placeholder) : Bool := (q.value? params).isNone

/-- The placeholders in a text, in order. -/
def inText (s : String) : List Placeholder := Piece.found ofPiece? s.toList

/-- The characters of a text with its placeholders replaced. -/
def boundChars (params : Params) (cs : List Char) : List Char :=
  (Piece.ofChars cs).flatMap fun p => (bindPiece params p).1

/-- Looks only at parts that are no replaced placeholder. -/
def kept {γ : Type} (params : Params) (f : Piece → Option γ) (p : Piece) : Option γ :=
  if (ofPiece? p).all (isOpen params) then f p else none

private theorem boundChars_of_none {cs : List Char} (h : Piece.first? cs = none) :
    boundChars params cs = cs := by
  rw [boundChars, Piece.ofChars]
  split
  · simp [bindPiece, ofPiece?, Piece.chars]
  · simp_all

private theorem boundChars_of_some {cs before inner after : List Char}
    (h : Piece.first? cs = some (before, inner, after)) : boundChars params cs =
      before ++ ((bindPiece params (.braced inner)).1 ++ boundChars params after) := by
  rw [boundChars, Piece.ofChars]
  split
  · simp_all
  · next b i a heq =>
    rw [h] at heq
    cases heq
    simp [boundChars, bindPiece, ofPiece?, Piece.chars]

/-- In a bound text is found what was found before in all parts that are no replaced placeholder. -/
theorem found_boundChars {γ : Type} {f : Piece → Option γ} (hf : ∀ w, f (.plain w) = none)
    {cs : List Char} (h : ∀ q ∈ Piece.found ofPiece? cs, q.Harmless params) :
    Piece.found f (boundChars params cs) = Piece.found (kept params f) cs := by
  have hf' : ∀ w, kept params f (.plain w) = none := hf
  induction cs using Piece.ofChars.induct with
  | case1 cs hnone =>
    rw [boundChars_of_none hnone, Piece.found_of_none hf hnone, Piece.found_of_none hf' hnone]
  | case2 cs before inner after hsome ih =>
    rw [Piece.found_of_some (fun _ => rfl) hsome] at h
    obtain ⟨hbefore, hinner⟩ := Piece.clear_of_first? hsome
    have hafter := ih fun q hq => h q (List.mem_append_right _ hq)
    rw [boundChars_of_some hsome, Piece.found_append hf hbefore, Piece.found_of_some hf' hsome,
      ← hafter]
    -- the braced part is no placeholder, or an open one, or it has been replaced
    cases hq : ofPiece? (.braced inner) with
    | none =>
      simp only [bindPiece, kept, hq, Option.all_none, if_true]
      exact Piece.found_braced_append hf hinner _
    | some q =>
      cases hv : q.value? params with
      | none =>
        simp only [bindPiece, kept, hq, hv, isOpen, Option.all_some, Option.isNone_none, if_true]
        exact Piece.found_braced_append hf hinner _
      | some v =>
        have hclear : Text.Clear Piece.opening v := (h q (by simp [hq]) v hv).clear
        simp only [bindPiece, kept, hq, hv, isOpen, Option.all_some, Option.isNone_some]
        exact Piece.found_append hf hclear _

theorem toList_bindText (s : String) :
    (bindText params s).1.toList = boundChars params s.toList := by
  simp [bindText, boundChars, List.flatMap_map]

theorem inText_bindText {s : String} (h : ∀ q ∈ inText s, q.Harmless params) :
    inText (bindText params s).1 = (inText s).filter (isOpen params) := by
  rw [inText, toList_bindText, found_boundChars (fun _ => rfl) h, inText, Piece.found, Piece.found,
    List.filter_filterMap]
  congr 1
  funext p
  cases hq : ofPiece? p with
  | none => simp [kept, hq]
  | some q => cases ho : isOpen params q <;> simp [kept, hq, ho, Option.filter]

/-! ## Values -/

mutual

/-- The placeholders in all strings of a value, in order. -/
def inValue : Value → List Placeholder
  | .string s => inText s
  | .array items => inItems items
  | .object members => inMembers members
  | _ => []

def inItems : List Value → List Placeholder
  | [] => []
  | v :: rest => inValue v ++ inItems rest

def inMembers : List (String × Value) → List Placeholder
  | [] => []
  | (_, v) :: rest => inValue v ++ inMembers rest

end

theorem mem_inMembers {q : Placeholder} {members : List (String × Value)} {k : String} {v : Value}
    (hm : (k, v) ∈ members) (hq : q ∈ inValue v) : q ∈ inMembers members := by
  induction members with
  | nil => cases hm
  | cons m members ih =>
    rw [inMembers, List.mem_append]
    rcases List.mem_cons.mp hm with rfl | hm
    · exact .inl hq
    · exact .inr (ih hm)

mutual

theorem inValue_eq_flatMap (v : Value) : inValue v = v.leaves.flatMap inText := by
  cases v with
  | null | bool | number => rfl
  | string s => simp [inValue, Value.leaves]
  | array items => exact inItems_eq_flatMap items
  | object members => exact inMembers_eq_flatMap members

theorem inItems_eq_flatMap (items : List Value) :
    inItems items = (Value.leavesOfItems items).flatMap inText := by
  cases items with
  | nil => rfl
  | cons v rest =>
    rw [inItems, Value.leavesOfItems, List.flatMap_append, inValue_eq_flatMap v,
      inItems_eq_flatMap rest]

theorem inMembers_eq_flatMap (members : List (String × Value)) :
    inMembers members = (Value.leavesOfMembers members).flatMap inText := by
  cases members with
  | nil => rfl
  | cons m rest =>
    obtain ⟨k, v⟩ := m
    rw [inMembers, Value.leavesOfMembers, List.flatMap_append, inValue_eq_flatMap v,
      inMembers_eq_flatMap rest]

end

mutual

theorem leaves_bind (v : Value) :
    (bind params v).1.leaves = v.leaves.map fun s => (bindText params s).1 := by
  cases v with
  | null | bool | number | string => rfl
  | array items => exact leaves_bindItems items
  | object members => exact leaves_bindMembers members

theorem leaves_bindItems (items : List Value) : Value.leavesOfItems (bindItems params items).1 =
    (Value.leavesOfItems items).map fun s => (bindText params s).1 := by
  cases items with
  | nil => rfl
  | cons v rest =>
    simp only [bindItems, Value.leavesOfItems, List.map_append]
    rw [leaves_bind v, leaves_bindItems rest]

theorem leaves_bindMembers (members : List (String × Value)) :
    Value.leavesOfMembers (bindMembers params members).1 =
      (Value.leavesOfMembers members).map fun s => (bindText params s).1 := by
  cases members with
  | nil => rfl
  | cons m rest =>
    obtain ⟨k, v⟩ := m
    simp only [bindMembers, Value.leavesOfMembers, List.map_append]
    rw [leaves_bind v, leaves_bindMembers rest]

end

/-- The placeholders of a bound value are those that were left open. -/
theorem inValue_bind (v : Value) (h : ∀ q ∈ inValue v, q.Harmless params) :
    inValue (bind params v).1 = (inValue v).filter (isOpen params) := by
  rw [inValue_eq_flatMap] at h
  rw [inValue_eq_flatMap, inValue_eq_flatMap, leaves_bind, List.flatMap_map, List.filter_flatMap]
  apply List.flatMap_congr
  intro s hs
  exact inText_bindText fun q hq => h q (List.mem_flatMap.mpr ⟨s, hs, hq⟩)

theorem keysInText_eq (s : String) : keysInText s = (inText s).map (·.key) := by
  rw [keysInText, inText, Piece.found, List.map_filterMap]

mutual

theorem keysIn_eq (v : Value) : keysIn v = (inValue v).map (·.key) := by
  cases v with
  | null | bool | number => rfl
  | string s => exact keysInText_eq s
  | array items => exact keysInItems_eq items
  | object members => exact keysInMembers_eq members

theorem keysInItems_eq (items : List Value) : keysInItems items = (inItems items).map (·.key) := by
  cases items with
  | nil => rfl
  | cons v rest =>
    rw [keysInItems, inItems, keysIn_eq v, keysInItems_eq rest, List.map_append]

theorem keysInMembers_eq (members : List (String × Value)) :
    keysInMembers members = (inMembers members).map (·.key) := by
  cases members with
  | nil => rfl
  | cons m rest =>
    obtain ⟨k, v⟩ := m
    rw [keysInMembers, inMembers, keysIn_eq v, keysInMembers_eq rest, List.map_append]

end

theorem inText_of_shut {s : String} (h : Text.Shut s.toList) : inText s = [] :=
  Piece.found_of_shut (fun _ => rfl) h

theorem inText_of_notMem {s : String} (h : '\x7b' ∉ s.toList) : inText s = [] :=
  inText_of_shut (Text.shut_of_notMem h)

end Placeholder

end Automation
