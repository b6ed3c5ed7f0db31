import Automation.Proofs.Workflow.Resolution
import Mathlib.Data.List.Forall2

/-!
# What a resolution gives

A value can be resolved exactly if each of its references stands for something, and the references
are those that the dependencies of a step are read off. The result has the arrays and the keys of
the value. Inside a text an output takes the place of its reference, as it is and without being
looked at again; what stands between the references stays.
-/

namespace Automation

namespace Text

theorem byteSize_append (cs ds : List Char) :
    byteSize (cs ++ ds) = byteSize cs + byteSize ds := by
  induction cs with
  | nil => simp [byteSize]
  | cons c cs ih =>
    rw [List.cons_append, byteSize, ih, byteSize]
    omega

private theorem append_inj_of_byteSize {cs cs' ds ds' : List Char} (h : cs ++ ds = cs' ++ ds')
    (hsize : byteSize cs = byteSize cs') : cs = cs' ∧ ds = ds' := by
  induction cs generalizing cs' with
  | nil =>
    cases cs' with
    | nil => exact ⟨rfl, h⟩
    | cons c cs' =>
      have := c.utf8Size_pos
      simp only [byteSize] at hsize
      omega
  | cons c cs ih =>
    cases cs' with
    | nil =>
      have := c.utf8Size_pos
      simp only [byteSize] at hsize
      omega
    | cons c' cs' =>
      rw [List.cons_append, List.cons_append] at h
      obtain ⟨rfl, htail⟩ := List.cons.inj h
      simp only [byteSize] at hsize
      obtain ⟨rfl, hds⟩ := ih htail (by omega)
      exact ⟨rfl, hds⟩

end Text

theorem Piece.join_ofChars (cs : List Char) : Piece.join (Piece.ofChars cs) = cs := by
  induction cs using Piece.ofChars.induct with
  | case1 cs hnone =>
    rw [Piece.ofChars]
    split
    · simp [Piece.join, Piece.chars]
    · simp_all
  | case2 cs before inner after hsome ih =>
    rw [Piece.ofChars]
    split
    · simp_all
    · next b i a heq =>
      rw [hsome] at heq
      cases heq
      rw [Piece.eq_of_first? hsome]
      simp only [Piece.join, List.flatMap_cons, Piece.chars] at ih ⊢
      rw [ih]
      simp only [List.append_assoc]

theorem Piece.filterMap_place {γ : Type} (f : Piece → Option γ) (start : Nat) (ps : List Piece) :
    (place start ps).filterMap (fun p => f p.piece) = ps.filterMap f := by
  induction ps generalizing start with
  | nil => rfl
  | cons p ps ih => simp only [place, List.filterMap_cons, ih]

namespace Reference

/-- The references in braces among parts of a text, the first of which is at `start`. -/
def embeddedFrom (start : Nat) (ps : List Piece) : List Embedded :=
  (Piece.place start ps).filterMap fun p =>
    (ofPiece? p.piece).map fun r => ⟨p.start, p.stop, r⟩

theorem embeddedFrom_cons (start : Nat) (p : Piece) (ps : List Piece) :
    embeddedFrom start (p :: ps) =
      ((ofPiece? p).map fun r => ⟨start, start + Text.byteSize p.chars, r⟩).toList ++
        embeddedFrom (start + Text.byteSize p.chars) ps := by
  simp only [embeddedFrom, Piece.place, List.filterMap_cons]
  cases ofPiece? p <;> rfl

theorem map_reference_embedded (cs : List Char) :
    (embedded cs).map (·.reference) = (Piece.ofChars cs).filterMap ofPiece? := by
  simpa [embedded, List.map_filterMap, Function.comp_def] using
    Piece.filterMap_place ofPiece? 0 (Piece.ofChars cs)

end Reference

namespace Outputs

open Json

/-- The reference stands for the value: it is the output of the step, or the field that is meant of
an output that is an object. -/
inductive Stands (o : Outputs) (r : Reference) : Value → Prop where
  | output {v : Value} : r.field = none → Entries.get? o r.stepId = some v → Stands o r v
  | field {name : String} {members : Members} {v : Value} : r.field = some name →
      Entries.get? o r.stepId = some (.object members) → Entries.get? members name = some v →
      Stands o r v

/-- The references of a text, the first byte of which is at `start`, are replaced by what they stand
for: a string as it is, any other value as JSON. All between them and behind them stays. -/
inductive Spliced (o : Outputs) :
    (start : Nat) → List Reference.Embedded → (text result : List Char) → Prop where
  | rest (start : Nat) (cs : List Char) : Spliced o start [] cs cs
  | occurrence {start : Nat} {e : Reference.Embedded} {es : List Reference.Embedded} {v : Value}
      {gap inner after result : List Char} : e.start = start + Text.byteSize gap →
      e.stop = e.start + Text.byteSize (Piece.braced inner).chars →
      Reference.ofChars? inner = some e.reference → o.Stands e.reference v →
      Spliced o e.stop es after result →
      Spliced o start (e :: es) (gap ++ ((Piece.braced inner).chars ++ after))
        (gap ++ ((inserted v).toList ++ result))

/-- The second value is the first one with its references replaced. A text that is a reference as a
whole becomes what the reference stands for; arrays keep their lengths and objects their keys. -/
inductive Resolved (o : Outputs) : Value → Value → Prop where
  | null : Resolved o .null .null
  | bool (b : Bool) : Resolved o (.bool b) (.bool b)
  | number (n : Number) : Resolved o (.number n) (.number n)
  | whole {s : String} {r : Reference} {v : Value} : Reference.ofText? s = some r → o.Stands r v →
      Resolved o (.string s) v
  | text {s t : String} : Reference.ofText? s = none →
      Spliced o 0 (Reference.embedded s.toList) s.toList t.toList →
      Resolved o (.string s) (.string t)
  | array {items items' : List Value} : List.Forall₂ (Resolved o) items items' →
      Resolved o (.array items) (.array items')
  | object {members members' : List (String × Value)} :
      members'.map Prod.fst = members.map Prod.fst →
      List.Forall₂ (Resolved o) (members.map Prod.snd) (members'.map Prod.snd) →
      Resolved o (.object members) (.object members')

variable {o : Outputs}

private theorem lookup_eq_ok {r : Reference} {v : Value} : lookup o r = .ok v ↔ o.Stands r v := by
  constructor
  · intro h
    unfold lookup at h
    split at h
    · cases h
    · next output hout =>
      split at h
      · next hfield =>
        cases h
        exact .output hfield hout
      · next name hfield =>
        split at h
        · next u hu =>
          cases h
          cases output with
          | object members => exact .field hfield hout hu
          | null | bool | number | string | array => simp [Value.member?] at hu
        · cases h
  · rintro (⟨hfield, hv⟩ | ⟨hfield, hout, hv⟩)
    · simp [lookup, hv, hfield]
    · simp [lookup, hout, hfield, Value.member?, hv]

/-! ## Texts -/

private theorem Spliced.gap {start : Nat} {gap cs out : List Char} {es : List Reference.Embedded}
    (h : Spliced o (start + Text.byteSize gap) es cs out) :
    Spliced o start es (gap ++ cs) (gap ++ out) := by
  cases h with
  | rest => exact .rest _ _
  | occurrence hstart hstop hr hv hrest =>
    rw [← List.append_assoc, ← List.append_assoc gap]
    refine .occurrence ?_ hstop hr hv hrest
    rw [hstart, Text.byteSize_append]
    omega

/-- At these places a text is replaced in one way. -/
theorem Spliced.unique {start : Nat} {es : List Reference.Embedded} {cs out out' : List Char}
    (h : Spliced o start es cs out) (h' : Spliced o start es cs out') : out = out' := by
  induction h generalizing out' with
  | rest => cases h'; rfl
  | @occurrence start e es v gap inner after result hstart hstop hr hv hrest ih =>
    generalize hcs : gap ++ ((Piece.braced inner).chars ++ after) = cs at h'
    cases h' with
    | @occurrence _ _ _ v' gap' inner' after' result' hstart' hstop' hr' hv' hrest' =>
      obtain ⟨rfl, hbraced⟩ := Text.append_inj_of_byteSize hcs (by omega)
      obtain ⟨-, rfl⟩ := Text.append_inj_of_byteSize hbraced (by omega)
      have hvalue : Except.ok (ε := Error) v = .ok v' :=
        (lookup_eq_ok.mpr hv).symm.trans (lookup_eq_ok.mpr hv')
      cases hvalue
      rw [ih hrest']

theorem bind_bind_eq_ok {α β γ ε : Type} {x : Except ε α} {y : Except ε β} {f : α → β → γ} {c : γ} :
    (do let a ← x; let b ← y; pure (f a b)) = .ok c ↔
      ∃ a b, x = .ok a ∧ y = .ok b ∧ c = f a b := by
  cases x with
  | error e => simp [bind, Except.bind]
  | ok a => cases y <;> simp [bind, Except.bind, pure, Except.pure, eq_comm]

private theorem spliced_of_mapM {ps : List Piece} {parts : List (List Char)}
    (h : ps.mapM (resolvePiece o) = .ok parts) (start : Nat) :
    Spliced o start (Reference.embeddedFrom start ps) (Piece.join ps) parts.flatten := by
  induction ps generalizing start parts with
  | nil =>
    cases h
    exact .rest start []
  | cons p ps ih =>
    rw [List.mapM_cons] at h
    obtain ⟨cs, parts, hp, hps, rfl⟩ := bind_bind_eq_ok.mp h
    have hrest := ih hps (start + Text.byteSize p.chars)
    rw [Reference.embeddedFrom_cons, Piece.join, List.flatMap_cons, List.flatten_cons]
    unfold resolvePiece at hp
    cases hr : Reference.ofPiece? p with
    | none =>
      rw [hr] at hp
      cases hp
      exact hrest.gap
    | some r =>
      cases p with
      | plain => cases hr
      | braced inner =>
        cases hl : lookup o r with
        | error e => simp [hr, hl, Except.map] at hp
        | ok v =>
          simp only [hr, hl, Except.map, Except.ok.injEq] at hp
          subst hp
          exact @Spliced.occurrence o start _ _ v [] inner _ _ rfl rfl hr (lookup_eq_ok.mp hl) hrest

private theorem Spliced.stands {start : Nat} {es : List Reference.Embedded} {cs out : List Char}
    (h : Spliced o start es cs out) : ∀ e ∈ es, ∃ v, o.Stands e.reference v := by
  induction h with
  | rest => simp
  | occurrence _ _ _ hv _ ih => exact List.forall_mem_cons.mpr ⟨⟨_, hv⟩, ih⟩

theorem inText_of_embedded {s : String} (hs : Reference.ofText? s = none) :
    Reference.inText s = (Reference.embedded s.toList).map (·.reference) := by
  rw [Reference.map_reference_embedded, Reference.inText, hs]

private theorem resolveText_ok {s : String} (h : ∀ r ∈ Reference.inText s, ∃ u, o.Stands r u) :
    ∃ v, resolveText o s = .ok v := by
  cases hs : resolveText o s with
  | ok v => exact ⟨v, rfl⟩
  | error e =>
    obtain ⟨r, hr, he⟩ := resolveText_error hs
    obtain ⟨u, hu⟩ := h r hr
    rw [lookup_eq_ok.mpr hu] at he
    cases he

private theorem resolved_of_resolveText {s : String} {v : Value} (h : resolveText o s = .ok v) :
    Resolved o (.string s) v := by
  unfold resolveText at h
  cases hs : Reference.ofText? s with
  | some r =>
    rw [hs] at h
    exact .whole hs (lookup_eq_ok.mp h)
  | none =>
    rw [hs] at h
    cases hm : (Piece.ofChars s.toList).mapM (resolvePiece o) with
    | error e => simp [hm, bind, Except.bind] at h
    | ok parts =>
      simp only [hm, bind, Except.bind, pure, Except.pure, Except.ok.injEq] at h
      subst h
      have hspliced := spliced_of_mapM hm 0
      rw [Piece.join_ofChars] at hspliced
      exact .text hs (by rwa [String.toList_ofList])

private theorem resolveText_eq_ok {s : String} {v : Value} :
    resolveText o s = .ok v ↔ Resolved o (.string s) v := by
  refine ⟨resolved_of_resolveText, fun h => ?_⟩
  cases h with
  | whole hs hv =>
    rw [resolveText, hs]
    exact lookup_eq_ok.mpr hv
  | text hs hspliced =>
    -- the references stand for something, so there is a result, and it is the only one
    obtain ⟨w, hw⟩ := resolveText_ok (o := o) (s := s) (by
      rw [inText_of_embedded hs]
      simpa using hspliced.stands)
    cases resolved_of_resolveText hw with
    | whole hs' => rw [hs] at hs'; cases hs'
    | text _ hspliced' => rw [hw, String.toList_inj.mp (hspliced'.unique hspliced)]

/-! ## Values -/

mutual

theorem resolve_eq_ok (v v' : Value) : resolve o v = .ok v' ↔ Resolved o v v' := by
  match v with
  | .null | .bool _ | .number _ =>
    simp only [resolve, Except.ok.injEq]
    exact ⟨fun h => h ▸ by constructor, fun h => by cases h; rfl⟩
  | .string s =>
    rw [resolve]
    exact resolveText_eq_ok
  | .array items =>
    have hitems := resolveItems_eq_ok items
    rw [resolve]
    constructor
    · intro h
      cases hi : resolveItems o items with
      | error e => simp [hi, Except.map] at h
      | ok items' =>
        rw [hi] at h
        cases h
        exact .array ((hitems items').mp hi)
    · rintro (_ | _ | _ | _ | _ | h | _)
      rw [(hitems _).mpr h]
      rfl
  | .object members =>
    have hmembers := resolveMembers_eq_ok members
    rw [resolve]
    constructor
    · intro h
      cases hm : resolveMembers o members with
      | error e => simp [hm, Except.map] at h
      | ok members' =>
        rw [hm] at h
        cases h
        obtain ⟨hkeys, hvalues⟩ := (hmembers members').mp hm
        exact .object hkeys hvalues
    · rintro (_ | _ | _ | _ | _ | _ | ⟨hkeys, hvalues⟩)
      rw [(hmembers _).mpr ⟨hkeys, hvalues⟩]
      rfl

theorem resolveItems_eq_ok (items items' : List Value) :
    resolveItems o items = .ok items' ↔ List.Forall₂ (Resolved o) items items' := by
  match items with
  | [] =>
    rw [resolveItems, Except.ok.injEq, List.forall₂_nil_left_iff]
    exact eq_comm
  | v :: rest =>
    rw [resolveItems, List.forall₂_cons_left_iff]
    simp only [bind_bind_eq_ok, resolve_eq_ok v, resolveItems_eq_ok rest]

theorem resolveMembers_eq_ok (members members' : List (String × Value)) :
    resolveMembers o members = .ok members' ↔ members'.map Prod.fst = members.map Prod.fst ∧
      List.Forall₂ (Resolved o) (members.map Prod.snd) (members'.map Prod.snd) := by
  match members with
  | [] => cases members' <;> simp [resolveMembers]
  | (k, v) :: rest =>
    rw [resolveMembers]
    simp only [bind_bind_eq_ok, resolve_eq_ok v, resolveMembers_eq_ok rest]
    constructor
    · rintro ⟨w, rest', hw, ⟨hkeys, hvalues⟩, rfl⟩
      exact ⟨congrArg (k :: ·) hkeys, .cons hw hvalues⟩
    · rintro ⟨hkeys, hvalues⟩
      cases members' with
      | nil => cases hkeys
      | cons m rest' =>
        obtain ⟨k', w⟩ := m
        obtain ⟨hkey, hrest⟩ := List.cons.inj hkeys
        obtain ⟨hw, hvalues⟩ := List.forall₂_cons.mp hvalues
        exact ⟨w, rest', hw, ⟨hrest, hvalues⟩, congrArg (fun key => (key, w) :: rest') hkey⟩

end

mutual

theorem Resolved.stands (v : Value) {v' : Value} (h : Resolved o v v') :
    ∀ r ∈ Reference.inValue v, ∃ u, o.Stands r u := by
  match v with
  | .null | .bool _ | .number _ => simp [Reference.inValue]
  | .string s =>
    rw [Reference.inValue]
    cases h with
    | whole hs hv => simpa [Reference.inText, hs] using ⟨_, hv⟩
    | text hs hspliced =>
      rw [inText_of_embedded hs]
      simpa using hspliced.stands
  | .array items =>
    rw [Reference.inValue]
    cases h with
    | array hitems => exact Resolved.stands_items items hitems
  | .object members =>
    rw [Reference.inValue]
    cases h with
    | object _ hvalues => exact Resolved.stands_members members hvalues

theorem Resolved.stands_items (items : List Value) {items' : List Value}
    (h : List.Forall₂ (Resolved o) items items') :
    ∀ r ∈ Reference.inItems items, ∃ u, o.Stands r u := by
  match items with
  | [] => simp [Reference.inItems]
  | v :: rest =>
    obtain ⟨v', rest', hv, hrest, rfl⟩ := List.forall₂_cons_left_iff.mp h
    rw [Reference.inItems, List.forall_mem_append]
    exact ⟨Resolved.stands v hv, Resolved.stands_items rest hrest⟩

theorem Resolved.stands_members (members : List (String × Value)) {values : List Value}
    (h : List.Forall₂ (Resolved o) (members.map Prod.snd) values) :
    ∀ r ∈ Reference.inMembers members, ∃ u, o.Stands r u := by
  match members with
  | [] => simp [Reference.inMembers]
  | (k, v) :: rest =>
    obtain ⟨v', rest', hv, hrest, rfl⟩ := List.forall₂_cons_left_iff.mp h
    rw [Reference.inMembers, List.forall_mem_append]
    exact ⟨Resolved.stands v hv, Resolved.stands_members rest hrest⟩

end

/-- A value can be resolved exactly if each of its references stands for something. -/
theorem resolve_ok_iff (v : Value) :
    (∃ v', resolve o v = .ok v') ↔ ∀ r ∈ Reference.inValue v, ∃ u, o.Stands r u := by
  constructor
  · rintro ⟨v', h⟩
    exact Resolved.stands v ((resolve_eq_ok v v').mp h)
  · intro h
    cases hv : resolve o v with
    | ok v' => exact ⟨v', rfl⟩
    | error e =>
      obtain ⟨r, hr, he⟩ := resolve_error v hv
      obtain ⟨u, hu⟩ := h r hr
      rw [lookup_eq_ok.mpr hu] at he
      cases he

/-! ## Values without references -/

private theorem resolved_self_of_inText {s : String} (h : Reference.inText s = []) :
    Resolved o (.string s) (.string s) := by
  have hs : Reference.ofText? s = none := by
    cases hs : Reference.ofText? s with
    | none => rfl
    | some r => simp [Reference.inText, hs] at h
  rw [inText_of_embedded hs, List.map_eq_nil_iff] at h
  refine .text hs ?_
  rw [h]
  exact .rest 0 _

mutual

/-- A value without a reference is resolved to itself. -/
theorem resolved_self (v : Value) (h : Reference.inValue v = []) : Resolved o v v := by
  match v with
  | .null | .bool _ | .number _ => constructor
  | .string s =>
    rw [Reference.inValue] at h
    exact resolved_self_of_inText h
  | .array items =>
    rw [Reference.inValue] at h
    exact .array (resolved_self_items items h)
  | .object members =>
    rw [Reference.inValue] at h
    exact .object rfl (resolved_self_members members h)

theorem resolved_self_items (items : List Value) (h : Reference.inItems items = []) :
    List.Forall₂ (Resolved o) items items := by
  match items with
  | [] => exact .nil
  | v :: rest =>
    rw [Reference.inItems, List.append_eq_nil_iff] at h
    exact .cons (resolved_self v h.1) (resolved_self_items rest h.2)

theorem resolved_self_members (members : List (String × Value))
    (h : Reference.inMembers members = []) :
    List.Forall₂ (Resolved o) (members.map Prod.snd) (members.map Prod.snd) := by
  match members with
  | [] => exact .nil
  | (k, v) :: rest =>
    rw [Reference.inMembers, List.append_eq_nil_iff] at h
    exact .cons (resolved_self v h.1) (resolved_self_members rest h.2)

end

/-! ## Resolution -/

/-- A value can be resolved exactly if each of its references stands for something; without a
reference it stays as it is; and the result is the value with its references replaced, each by what
it stands for. -/
theorem resolve_replaces (o : Outputs) (v : Value) :
    ((∃ v', resolve o v = .ok v') ↔ ∀ r ∈ Reference.inValue v, ∃ u, o.Stands r u) ∧
      (Reference.inValue v = [] → resolve o v = .ok v) ∧
      ∀ v', resolve o v = .ok v' ↔ Resolved o v v' :=
  ⟨resolve_ok_iff v, fun h => (resolve_eq_ok v v).mpr (resolved_self v h), resolve_eq_ok v⟩

/-- A step has given a link that reads as a reference itself. -/
def linked : Outputs := [("a", .object [("url", .string "\x7b\x7bstep:b.output\x7d\x7d")])]

/-- The link is inserted as it is; a text without a reference stays. -/
theorem resolve_replaces_verbatim :
    let link := Value.string "see \x7b\x7bstep:a.output.url\x7d\x7d"
    let plain := Value.string "see \x7bstep:a.output\x7d"
    (∀ r ∈ Reference.inValue link, ∃ u, linked.Stands r u) ∧
      Resolved linked link (.string "see \x7b\x7bstep:b.output\x7d\x7d") ∧
      Reference.inValue plain = [] ∧ resolve linked plain = .ok plain := by
  intro link plain
  obtain ⟨hok, -, hresolved⟩ := resolve_replaces linked link
  have hlink : resolve linked link = .ok (.string "see \x7b\x7bstep:b.output\x7d\x7d") := by
    with_unfolding_all rfl
  have hplain : Reference.inValue plain = [] := by decide +kernel
  exact ⟨hok.mp ⟨_, hlink⟩, (hresolved _).mp hlink, hplain,
    (resolve_replaces linked plain).2.1 hplain⟩

end Outputs

end Automation
