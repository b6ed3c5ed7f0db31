import Automation.Proofs.Workflow.Substitution
import Mathlib.Data.List.Pairwise

/-!
# Braces by their places

The placeholders and the references in a text have places in bytes. A scan that goes over the text
by such places alone finds them within as many turns as the text has bytes, and it never cuts out
of the text or through a character. Neither does a text that is put together from what lies between
the places. No place belongs to a placeholder and to a reference.
-/

namespace Automation

namespace Text

/-- A range of bytes. -/
structure Span where
  start : Nat
  stop : Nat
deriving DecidableEq, Repr

/-- What is behind the first `n` bytes; none if there are fewer or a character is cut through. -/
def dropBytes? : (n : Nat) → List Char → Option (List Char)
  | 0, cs => some cs
  | _ + 1, [] => none
  | n + 1, c :: cs => if c.utf8Size ≤ n + 1 then dropBytes? (n + 1 - c.utf8Size) cs else none

/-- The first `n` bytes; none if there are fewer or a character is cut through. -/
def takeBytes? : (n : Nat) → List Char → Option (List Char)
  | 0, _ => some []
  | _ + 1, [] => none
  | n + 1, c :: cs =>
    if c.utf8Size ≤ n + 1 then (takeBytes? (n + 1 - c.utf8Size) cs).map (c :: ·) else none

/-- What is in a range; none if it runs backwards, leaves the text or cuts through a character. -/
def slice? (p : Span) (cs : List Char) : Option (List Char) :=
  if p.start ≤ p.stop then (dropBytes? p.start cs).bind (takeBytes? (p.stop - p.start)) else none

/-- How many bytes stand before the first occurrence of `mark`. -/
def find? (mark cs : List Char) : Option Nat := (cutAt mark cs).map fun p => byteSize p.1

/-- The text from byte `last` on with ranges replaced, or kept where nothing is given for them. What
lies between the ranges and behind them is cut out of the text. -/
def splice? (cs : List Char) (last : Nat) : List (Span × Option (List Char)) → Option (List Char)
  | [] => slice? ⟨last, byteSize cs⟩ cs
  | (p, new) :: rest => do
    let gap ← slice? ⟨last, p.start⟩ cs
    let own ← new <|> slice? p cs
    return gap ++ (own ++ (← splice? cs p.stop rest))

variable {cs w m : List Char} {p : Span}

private theorem dropBytes?_append (w cs : List Char) :
    dropBytes? (byteSize w) (w ++ cs) = some cs := by
  induction w with
  | nil => cases cs <;> rfl
  | cons c w ih =>
    have hpos := c.utf8Size_pos
    obtain ⟨n, hn⟩ : ∃ n, c.utf8Size + byteSize w = n + 1 := ⟨_, (Nat.succ_pred (by omega)).symm⟩
    have hrest : n + 1 - c.utf8Size = byteSize w := by omega
    rw [byteSize, hn, List.cons_append, dropBytes?, if_pos (by omega), hrest, ih]

private theorem takeBytes?_append (m cs : List Char) :
    takeBytes? (byteSize m) (m ++ cs) = some m := by
  induction m with
  | nil => cases cs <;> rfl
  | cons c m ih =>
    have hpos := c.utf8Size_pos
    obtain ⟨n, hn⟩ : ∃ n, c.utf8Size + byteSize m = n + 1 := ⟨_, (Nat.succ_pred (by omega)).symm⟩
    have hrest : n + 1 - c.utf8Size = byteSize m := by omega
    rw [byteSize, hn, List.cons_append, takeBytes?, if_pos (by omega), hrest, ih]
    rfl

private theorem slice?_append (w m cs : List Char) :
    slice? ⟨byteSize w, byteSize w + byteSize m⟩ (w ++ (m ++ cs)) = some m := by
  rw [slice?, if_pos (Nat.le_add_right _ _), dropBytes?_append, Option.bind_some,
    Nat.add_sub_cancel_left, takeBytes?_append]

private theorem utf8ByteSize_ofList (w : List Char) :
    (String.ofList w).utf8ByteSize = byteSize w := by
  induction w with
  | nil => rfl
  | cons c w ih =>
    rw [← List.singleton_append, String.ofList_append, String.utf8ByteSize_append, ih,
      byteSize_append]
    simp [byteSize]

private theorem isValid_of_append {s : String} (h : s.toList = w ++ cs) :
    (⟨byteSize w⟩ : String.Pos.Raw).IsValid s := by
  rw [String.Pos.Raw.isValid_iff_exists_append]
  refine ⟨String.ofList w, String.ofList cs, ?_, ?_⟩
  · rw [← String.ofList_append, ← h, String.ofList_toList]
  · rw [String.rawEndPos, utf8ByteSize_ofList]

end Text

namespace Piece

open Text

variable {α : Type} {read : List Char → Option α} {w cs : List Char}

/-- What `read` makes of the braced parts of the text from byte `pos` on, with their places: a turn
looks for the next two opening braces and the next two closing ones behind them, and the scan goes
on behind these. None if a turn cuts out of the text or through a character, or the turns are used
up. -/
def scan? (read : List Char → Option α) (cs : List Char) :
    (turns pos : Nat) → Option (List (Span × α))
  | 0, _ => none
  | turns + 1, pos => do
    match find? opening (← dropBytes? pos cs) with
    | none => return []
    | some offset =>
      let start := pos + offset
      match find? closing (← dropBytes? (start + 2) cs) with
      | none => return []
      | some offset =>
        let stop := start + 2 + offset + 2
        let inner ← slice? ⟨start + 2, stop - 2⟩ cs
        let rest ← scan? read cs turns stop
        return ((read inner).map fun a => (⟨start, stop⟩, a)).toList ++ rest

/-- What `read` makes of a part of a text. -/
def readPiece (read : List Char → Option α) : Piece → Option α
  | plain _ => none
  | braced inner => read inner

/-- What `read` makes of the parts of a text with their places; the first part is at `start`. -/
def marked (read : List Char → Option α) (start : Nat) (ps : List Piece) : List (Span × α) :=
  (place start ps).filterMap fun q =>
    (readPiece read q.piece).map fun a => (⟨q.start, q.stop⟩, a)

/-- What `read` makes of the braced parts of a text, in order, with places at which the text can be
cut. -/
structure Scanned (read : List Char → Option α) (s : String) (found : List (Span × α)) : Prop where
  terminates : ∀ more, scan? read s.toList (byteSize s.toList + 1 + more) 0 = some found
  onBoundaries : ∀ f ∈ found,
    (⟨f.1.start⟩ : String.Pos.Raw).IsValid s ∧ (⟨f.1.stop⟩ : String.Pos.Raw).IsValid s
  braced : ∀ f ∈ found, ∃ inner,
    slice? f.1 s.toList = some (opening ++ inner ++ closing) ∧ read inner = some f.2
  nonempty : ∀ f ∈ found, f.1.start < f.1.stop
  increasing : found.Pairwise fun f g => f.1.stop ≤ g.1.start
  rebuilt : splice? s.toList 0 (found.map fun f => (f.1, none)) = some s.toList

/-! ## Places -/

private theorem marked_cons (start : Nat) (p : Piece) (ps : List Piece) :
    marked read start (p :: ps) =
      ((readPiece read p).map fun a => (⟨start, start + byteSize p.chars⟩, a)).toList ++
        marked read (start + byteSize p.chars) ps := by
  simp only [marked, place, List.filterMap_cons]
  cases readPiece read p <;> rfl

private theorem mem_place {w : List Char} {ps : List Piece} {q : Placed}
    (hq : q ∈ place (byteSize w) ps) :
    ∃ before after, w ++ join ps = before ++ (q.piece.chars ++ after) ∧
      q.start = byteSize before ∧ q.stop = q.start + byteSize q.piece.chars := by
  induction ps generalizing w with
  | nil => cases hq
  | cons p ps ih =>
    rcases List.mem_cons.mp hq with rfl | hq
    · exact ⟨w, join ps, rfl, rfl, rfl⟩
    · rw [← byteSize_append] at hq
      obtain ⟨before, after, htext, hplace⟩ := ih hq
      refine ⟨before, after, ?_, hplace⟩
      rw [← htext, List.append_assoc]
      rfl

private theorem start_le_of_mem_place {start : Nat} {ps : List Piece} {q : Placed}
    (hq : q ∈ place start ps) : start ≤ q.start := by
  induction ps generalizing start with
  | nil => cases hq
  | cons p ps ih =>
    rcases List.mem_cons.mp hq with rfl | hq
    · exact Nat.le_refl start
    · exact Nat.le_trans (Nat.le_add_right _ _) (ih hq)

private theorem pairwise_place (start : Nat) (ps : List Piece) :
    (place start ps).Pairwise fun p q => p.stop ≤ q.start := by
  induction ps generalizing start with
  | nil => exact .nil
  | cons p ps ih => exact .cons (fun q hq => start_le_of_mem_place hq) (ih _)

private theorem byteSize_opening : byteSize opening = 2 := rfl

private theorem byteSize_closing : byteSize closing = 2 := rfl

private theorem byteSize_braced (inner : List Char) :
    byteSize (braced inner).chars = 2 + byteSize inner + 2 := by
  rw [chars, byteSize_append, byteSize_append, byteSize_opening, byteSize_closing]

private theorem readPiece_eq_some {p : Piece} {a : α} :
    readPiece read p = some a ↔ ∃ inner, p = braced inner ∧ read inner = some a := by
  cases p <;> simp [readPiece]

private theorem mem_marked {f : Span × α} {ps : List Piece} (hf : f ∈ marked read 0 ps) :
    ∃ before inner after, join ps = before ++ ((braced inner).chars ++ after) ∧
      f.1 = ⟨byteSize before, byteSize before + byteSize (braced inner).chars⟩ ∧
      read inner = some f.2 := by
  obtain ⟨q, hq, hmade⟩ := List.mem_filterMap.mp hf
  obtain ⟨a, hpiece, rfl⟩ := Option.map_eq_some_iff.mp hmade
  obtain ⟨inner, hinner, hread⟩ := readPiece_eq_some.mp hpiece
  obtain ⟨before, after, htext, hstart, hstop⟩ := mem_place (w := []) hq
  rw [hinner] at htext hstop
  rw [hstart] at hstop
  exact ⟨before, inner, after, htext, by rw [hstart, hstop], hread⟩

private theorem pairwise_marked (start : Nat) (ps : List Piece) :
    (marked read start ps).Pairwise fun f g => f.1.stop ≤ g.1.start := by
  refine (pairwise_place start ps).filterMap _ ?_
  intro p q hpq f hf g hg
  obtain ⟨a, -, rfl⟩ := Option.map_eq_some_iff.mp hf
  obtain ⟨b, -, rfl⟩ := Option.map_eq_some_iff.mp hg
  exact hpq

/-- What one reader takes and what another takes that takes nothing of the same lie apart. -/
theorem apart_marked {β : Type} {read' : List Char → Option β}
    (h : ∀ inner a, read inner = some a → read' inner = none) {start : Nat} {ps : List Piece}
    {f : Span × α} (hf : f ∈ marked read start ps) {g : Span × β}
    (hg : g ∈ marked read' start ps) : f.1.stop ≤ g.1.start ∨ g.1.stop ≤ f.1.start := by
  obtain ⟨p, hp, hf⟩ := List.mem_filterMap.mp hf
  obtain ⟨a, hread, rfl⟩ := Option.map_eq_some_iff.mp hf
  obtain ⟨q, hq, hg⟩ := List.mem_filterMap.mp hg
  obtain ⟨b, hread', rfl⟩ := Option.map_eq_some_iff.mp hg
  have hpq : p ≠ q := by
    rintro rfl
    obtain ⟨inner, hinner, hread⟩ := readPiece_eq_some.mp hread
    obtain ⟨inner', hinner', hread'⟩ := readPiece_eq_some.mp hread'
    rw [hinner] at hinner'
    cases hinner'
    rw [h inner a hread] at hread'
    cases hread'
  have hsymm : Std.Symm fun p q : Placed => p.stop ≤ q.start ∨ q.stop ≤ p.start :=
    ⟨fun _ _ => Or.symm⟩
  have hapart : (place start ps).Pairwise fun p q => p.stop ≤ q.start ∨ q.stop ≤ p.start :=
    (pairwise_place start ps).imp Or.inl
  exact hapart.forall hp hq hpq

/-! ## Cutting -/

private theorem splice?_marked (new : α → Option (List Char)) (w gap : List Char)
    (ps : List Piece) : splice? (w ++ (gap ++ join ps)) (byteSize w)
        ((marked read (byteSize (w ++ gap)) ps).map fun f => (f.1, new f.2)) =
      some (gap ++ ps.flatMap fun p => ((readPiece read p).bind new).getD p.chars) := by
  induction ps generalizing w gap with
  | nil =>
    have hgap := slice?_append w gap []
    rw [List.append_nil, ← byteSize_append] at hgap
    simpa [marked, place, splice?, join] using hgap
  | cons p ps ih =>
    rw [marked_cons, ← byteSize_append]
    cases hread : readPiece read p with
    | none =>
      have hrest := ih w (gap ++ p.chars)
      simp only [List.append_assoc, join, List.flatMap_cons] at hrest ⊢
      simpa [hread] using hrest
    | some a =>
      have hrest := ih (w ++ gap ++ p.chars) []
      have hgap := slice?_append w gap (p.chars ++ join ps)
      have hown := slice?_append (w ++ gap) p.chars (join ps)
      rw [← byteSize_append] at hgap hown
      simp only [List.append_assoc, List.nil_append, List.append_nil] at hrest hgap hown
      have hnew : (new a <|> some p.chars) = some ((new a).getD p.chars) := by
        cases new a <;> rfl
      simp only [join, List.append_assoc, List.flatMap_cons, hread] at hrest hgap hown ⊢
      simp [splice?, hgap, hown, hnew, hrest]

private theorem splice?_ofChars (new : α → Option (List Char)) (cs : List Char) :
    splice? cs 0 ((marked read 0 (ofChars cs)).map fun f => (f.1, new f.2)) =
      some ((ofChars cs).flatMap fun p => ((readPiece read p).bind new).getD p.chars) := by
  have hsplice := @splice?_marked α read new [] [] (ofChars cs)
  rw [join_ofChars] at hsplice
  exact hsplice

/-! ## Scanning -/

private theorem first?_eq_some_iff {before inner after : List Char} :
    first? cs = some (before, inner, after) ↔ ∃ rest,
      cutAt opening cs = some (before, rest) ∧ cutAt closing rest = some (inner, after) := by
  simp only [first?, Option.bind_eq_bind, Option.bind_eq_some_iff, Prod.exists, Option.pure_def,
    Option.some.injEq, Prod.mk.injEq]
  constructor
  · rintro ⟨b, rest, hopening, i, a, hclosing, rfl, rfl, rfl⟩
    exact ⟨rest, hopening, hclosing⟩
  · rintro ⟨rest, hopening, hclosing⟩
    exact ⟨before, rest, hopening, inner, after, hclosing, rfl, rfl, rfl⟩

private theorem marked_of_none (start : Nat) (h : first? cs = none) :
    marked read start (ofChars cs) = [] := by
  rw [ofChars]
  split
  · rfl
  · simp_all

private theorem marked_of_some {before inner after : List Char}
    (h : first? cs = some (before, inner, after)) (start : Nat) :
    marked read start (ofChars cs) =
      ((read inner).map fun a => (⟨start + byteSize before,
        start + byteSize before + byteSize (braced inner).chars⟩, a)).toList ++
        marked read (start + byteSize before + byteSize (braced inner).chars) (ofChars after) := by
  rw [ofChars]
  split
  · simp_all
  · next b i a heq =>
    rw [h] at heq
    cases heq
    rw [marked_cons, marked_cons]
    rfl

private theorem dropBytes?_opening (w : List Char) {before rest : List Char}
    (h : cutAt opening cs = some (before, rest)) :
    dropBytes? (byteSize w + byteSize before + 2) (w ++ cs) = some rest := by
  have hdrop := dropBytes?_append (w ++ before ++ opening) rest
  rw [byteSize_append, byteSize_append, byteSize_opening] at hdrop
  rw [eq_append_of_cutAt h]
  simpa only [List.append_assoc] using hdrop

/-- The scan finds what is in the parts of the text, if it has more turns than there are bytes. -/
theorem scan?_eq (w cs : List Char) {turns : Nat} (hturns : byteSize cs < turns) :
    scan? read (w ++ cs) turns (byteSize w) = some (marked read (byteSize w) (ofChars cs)) := by
  induction cs using Piece.ofChars.induct generalizing w turns with
  | case1 cs hnone =>
    obtain ⟨turns, rfl⟩ := Nat.exists_eq_add_one_of_ne_zero (Nat.ne_zero_of_lt hturns)
    rw [marked_of_none _ hnone, scan?, dropBytes?_append]
    cases hopening : cutAt opening cs with
    | none => simp [find?, hopening]
    | some p =>
      obtain ⟨before, rest⟩ := p
      have hclosing : cutAt closing rest = none := by
        rw [Option.eq_none_iff_forall_ne_some]
        rintro ⟨inner, after⟩ hclosing
        rw [first?_eq_some_iff.mpr ⟨rest, hopening, hclosing⟩] at hnone
        cases hnone
      simp [find?, hopening, dropBytes?_opening w hopening, hclosing]
  | case2 cs before inner after hsome ih =>
    obtain ⟨turns, rfl⟩ := Nat.exists_eq_add_one_of_ne_zero (Nat.ne_zero_of_lt hturns)
    obtain ⟨rest, hopening, hclosing⟩ := first?_eq_some_iff.mp hsome
    have hdrop := dropBytes?_opening w hopening
    have hcs : w ++ cs = w ++ before ++ opening ++ (inner ++ (closing ++ after)) := by
      rw [eq_of_first? hsome]
      simp only [List.append_assoc]
    have hinner := slice?_append (w ++ before ++ opening) inner (closing ++ after)
    rw [← hcs, byteSize_append, byteSize_append, byteSize_opening] at hinner
    -- the next turn begins behind the part, which takes bytes
    have hsize := congrArg byteSize (eq_of_first? hsome)
    simp only [byteSize_append, byteSize_opening] at hsize
    have hrest := @ih (w ++ before ++ (braced inner).chars) turns (by omega)
    have hrestart : w ++ before ++ (braced inner).chars ++ after = w ++ cs := by
      rw [hcs]
      simp only [chars, List.append_assoc]
    rw [hrestart, byteSize_append, byteSize_append, byteSize_braced, ← Nat.add_assoc,
      ← Nat.add_assoc] at hrest
    rw [marked_of_some hsome, scan?, dropBytes?_append, byteSize_braced, ← Nat.add_assoc,
      ← Nat.add_assoc]
    simp [find?, hopening, hdrop, hclosing, hinner, hrest]

private theorem scanned (read : List Char → Option α) (s : String) :
    Scanned read s (marked read 0 (ofChars s.toList)) where
  terminates more :=
    @scan?_eq α read [] s.toList (byteSize s.toList + 1 + more) (by omega)
  onBoundaries f hf := by
    obtain ⟨before, inner, after, htext, hspan, -⟩ := mem_marked hf
    rw [join_ofChars] at htext
    rw [hspan]
    refine ⟨isValid_of_append htext, ?_⟩
    rw [← List.append_assoc] at htext
    rw [← byteSize_append]
    exact isValid_of_append htext
  braced f hf := by
    obtain ⟨before, inner, after, htext, hspan, hread⟩ := mem_marked hf
    rw [join_ofChars] at htext
    refine ⟨inner, ?_, hread⟩
    rw [hspan, htext, slice?_append]
    rfl
  nonempty f hf := by
    obtain ⟨before, inner, after, -, hspan, -⟩ := mem_marked hf
    simp only [hspan, byteSize_braced]
    omega
  increasing := pairwise_marked 0 (ofChars s.toList)
  rebuilt := by
    have hkept (p : Piece) : ((readPiece read p).bind fun _ => none).getD p.chars = p.chars := by
      cases readPiece read p <;> rfl
    rw [splice?_ofChars fun _ => none]
    simp only [hkept]
    exact congrArg some (join_ofChars s.toList)

end Piece

namespace Placeholder

open Text

/-- Where the placeholder stands. -/
def Embedded.span (e : Embedded) : Span := ⟨e.start, e.stop⟩

/-- The placeholders in a text with their places. -/
def places (cs : List Char) : List (Span × Placeholder) :=
  (embedded cs).map fun e => (e.span, e.placeholder)

/-- The text put together by places, with what each placeholder is replaced by. -/
def cutText? (params : Params) (s : String) : Option (String × Bool) :=
  let es := embedded s.toList
  (splice? s.toList 0 (es.map fun e => (e.span, e.placeholder.value? params))).map fun cs =>
    (String.ofList cs, es.any fun e => (e.placeholder.value? params).isNone)

private theorem ofPiece?_eq : ofPiece? = Piece.readPiece ofChars? := by
  funext p
  cases p <;> rfl

private theorem places_eq (cs : List Char) :
    places cs = Piece.marked ofChars? 0 (Piece.ofChars cs) := by
  rw [places, embedded, Piece.marked, List.map_filterMap, ofPiece?_eq]
  simp only [Option.map_map]
  rfl

/-- Binding by places goes through and gives the bound text. -/
theorem cutText?_eq (params : Params) (s : String) :
    cutText? params s = some (bindText params s) := by
  have hsplice : splice? s.toList 0
      ((embedded s.toList).map fun e => (e.span, e.placeholder.value? params)) =
      some (boundChars params s.toList) := by
    have hmarked := @Piece.splice?_ofChars _ ofChars? (value? params) s.toList
    rw [← places_eq, places, List.map_map, ← ofPiece?_eq] at hmarked
    simp only [boundChars, bindPiece_eq]
    exact hmarked
  have hopen : (embedded s.toList).any (fun e => (e.placeholder.value? params).isNone) =
      (bindText params s).2 := by
    rw [bindText_snd, ← map_placeholder_embedded, List.any_map]
    rfl
  rw [cutText?, hsplice, hopen, ← toList_bindText]
  simp only [Option.map_some, String.ofList_toList]

end Placeholder

namespace Reference

open Text

/-- Where the reference stands. -/
def Embedded.span (e : Embedded) : Span := ⟨e.start, e.stop⟩

/-- The references in a text with their places. -/
def places (cs : List Char) : List (Span × Reference) :=
  (embedded cs).map fun e => (e.span, e.reference)

private theorem ofPiece?_eq : ofPiece? = Piece.readPiece ofChars? := by
  funext p
  cases p <;> rfl

private theorem places_eq (cs : List Char) :
    places cs = Piece.marked ofChars? 0 (Piece.ofChars cs) := by
  rw [places, embedded, Piece.marked, List.map_filterMap, ofPiece?_eq]
  simp only [Option.map_map]
  rfl

end Reference

namespace Outputs

open Json

/-- What each reference is replaced by. -/
def replacements (o : Outputs) (es : List Reference.Embedded) :
    Except Error (List (Text.Span × Option (List Char))) :=
  es.mapM fun e => (o.lookup e.reference).map fun v => (e.span, some (inserted v).toList)

/-- The text put together by places, with what each reference stands for. -/
def cutText? (o : Outputs) (s : String) : Option (Except Error Value) :=
  match Reference.ofText? s with
  | some r => some (o.lookup r)
  | none =>
    match o.replacements (Reference.embedded s.toList) with
    | .error e => some (.error e)
    | .ok news => (Text.splice? s.toList 0 news).map fun cs => .ok (.string (String.ofList cs))

variable {o : Outputs}

/-- What stands in for a reference in a text, if it stands for anything. -/
def insertion? (o : Outputs) (r : Reference) : Option (List Char) :=
  (o.lookup r).toOption.map fun v => (inserted v).toList

private theorem replacements_embeddedFrom (start : Nat) (ps : List Piece) :
    o.replacements (Reference.embeddedFrom start ps) = (ps.mapM (resolvePiece o)).map fun _ =>
      (Reference.embeddedFrom start ps).map fun e => (e.span, o.insertion? e.reference) := by
  induction ps generalizing start with
  | nil => rfl
  | cons p ps ih =>
    have hrest := ih (start + Text.byteSize p.chars)
    rw [Reference.embeddedFrom_cons, List.mapM_cons, resolvePiece]
    cases hr : Reference.ofPiece? p with
    | none =>
      simp only [Option.map_none, Option.toList_none, List.nil_append, hrest]
      cases ps.mapM (resolvePiece o) <;> rfl
    | some r =>
      rw [replacements] at hrest ⊢
      simp only [Option.map_some, Option.toList_some, List.singleton_append, List.mapM_cons, hrest,
        List.map_cons, insertion?]
      cases o.lookup r with
      | error e => rfl
      | ok v => cases ps.mapM (resolvePiece o) <;> rfl

private theorem flatten_of_mapM {ps : List Piece} {parts : List (List Char)}
    (h : ps.mapM (resolvePiece o) = .ok parts) : parts.flatten =
      ps.flatMap fun p => ((Reference.ofPiece? p).bind o.insertion?).getD p.chars := by
  induction ps generalizing parts with
  | nil =>
    cases h
    rfl
  | cons p ps ih =>
    rw [List.mapM_cons] at h
    obtain ⟨cs, parts, hp, hps, rfl⟩ := bind_bind_eq_ok.mp h
    rw [List.flatten_cons, List.flatMap_cons, ih hps]
    congr 1
    unfold resolvePiece at hp
    cases hr : Reference.ofPiece? p with
    | none =>
      rw [hr] at hp
      cases hp
      rfl
    | some r =>
      cases hl : o.lookup r with
      | error e => simp [hr, hl, Except.map] at hp
      | ok v =>
        simp only [hr, hl, Except.map, Except.ok.injEq] at hp
        simp [insertion?, hl, Except.toOption, hp]

/-- Resolving by places goes through and gives what the text is resolved to. -/
theorem cutText?_eq (o : Outputs) (s : String) : cutText? o s = some (resolveText o s) := by
  unfold cutText? resolveText
  cases Reference.ofText? s with
  | some r => rfl
  | none =>
    have hnews : o.replacements (Reference.embedded s.toList) =
        ((Piece.ofChars s.toList).mapM (resolvePiece o)).map fun _ =>
          (Reference.embedded s.toList).map fun e => (e.span, o.insertion? e.reference) :=
      replacements_embeddedFrom 0 (Piece.ofChars s.toList)
    cases hparts : (Piece.ofChars s.toList).mapM (resolvePiece o) with
    | error e =>
      rw [hparts] at hnews
      simp [hnews, Except.map, bind, Except.bind]
    | ok parts =>
      have hmarked := @Piece.splice?_ofChars _ Reference.ofChars? o.insertion? s.toList
      rw [← Reference.places_eq, Reference.places, List.map_map, ← Reference.ofPiece?_eq,
        ← flatten_of_mapM hparts] at hmarked
      have hsplice : Text.splice? s.toList 0 ((Reference.embedded s.toList).map fun e =>
          (e.span, o.insertion? e.reference)) = some parts.flatten := hmarked
      rw [hparts] at hnews
      simp [hnews, hsplice, Except.map, bind, Except.bind, pure, Except.pure]

end Outputs

/-- Both scans come to an end without cutting through a character or out of the text, and so do
binding and resolving by the places that they give. The places lie between characters, in order, and
each begins with two opening and ends with two closing braces. No place of a placeholder meets one
of a reference. -/
theorem Piece.scans_cut_safely (s : String) :
    Scanned Placeholder.ofChars? s (Placeholder.places s.toList) ∧
      Scanned Reference.ofChars? s (Reference.places s.toList) ∧
      (∀ params, Placeholder.cutText? params s = some (Placeholder.bindText params s)) ∧
      (∀ o, Outputs.cutText? o s = some (Outputs.resolveText o s)) ∧
      ∀ f ∈ Placeholder.places s.toList, ∀ g ∈ Reference.places s.toList,
        f.1 ≠ g.1 ∧ (f.1.stop ≤ g.1.start ∨ g.1.stop ≤ f.1.start) := by
  have hplaceholders := scanned Placeholder.ofChars? s
  have hreferences := scanned Reference.ofChars? s
  rw [Placeholder.places_eq, Reference.places_eq]
  refine ⟨hplaceholders, hreferences, fun params => Placeholder.cutText?_eq params s,
    fun o => Outputs.cutText?_eq o s, fun f hf g hg => ?_⟩
  have hnonempty := hplaceholders.nonempty f hf
  have hapart := apart_marked (fun _ _ => Placeholder.not_reference) hf hg
  refine ⟨fun hsame => ?_, hapart⟩
  rw [← hsame] at hapart
  omega

/-- A third opening brace, a name, a reference, letters of two bytes and braces that stay open. -/
theorem Piece.scans_cut_safely_umlauts :
    let s := "\x7b\x7b\x7bü\x7d\x7d \x7b\x7bwho|ü\x7d\x7d\x7b\x7b step:a.output \x7d\x7d \x7b\x7b"
    let f : Text.Span × Placeholder := (⟨8, 18⟩, ⟨"who", some ['ü']⟩)
    let g : Text.Span × Reference := (⟨18, 37⟩, ⟨"a", none⟩)
    Placeholder.places s.toList = [f] ∧ Reference.places s.toList = [g] ∧
      Scanned Placeholder.ofChars? s [f] ∧ Scanned Reference.ofChars? s [g] ∧ f.1 ≠ g.1 := by
  intro s f g
  have hf : Placeholder.places s.toList = [f] := by decide +kernel
  have hg : Reference.places s.toList = [g] := by decide +kernel
  obtain ⟨hplaceholders, hreferences, -, -, hapart⟩ := scans_cut_safely s
  rw [hf] at hplaceholders hapart
  rw [hg] at hreferences hapart
  exact ⟨hf, hg, hplaceholders, hreferences,
    (hapart f (List.mem_singleton_self f) g (List.mem_singleton_self g)).1⟩

end Automation
