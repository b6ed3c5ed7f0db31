import Automation.Json.Decode
import Automation.Proofs.Entries

/-!
# What is written is decoded

Values, lists, entries and records are decoded from what is written of them, if they are not nested
too deep and entries are sorted.
-/

namespace Automation.Json

open Entries (Sorted)

/-! ## Values -/

mutual

/-- The value is nested at most so deep, and the members of all its objects are sorted. -/
def Value.Regular (depth : Nat) : Value → Prop
  | .array items => 0 < depth ∧ Value.RegularItems (depth - 1) items
  | .object members => 0 < depth ∧ Sorted members ∧ Value.RegularMembers (depth - 1) members
  | _ => True

def Value.RegularItems (depth : Nat) : List Value → Prop
  | [] => True
  | v :: rest => v.Regular depth ∧ Value.RegularItems depth rest

def Value.RegularMembers (depth : Nat) : List (String × Value) → Prop
  | [] => True
  | (_, v) :: rest => v.Regular depth ∧ Value.RegularMembers depth rest

end

mutual

theorem Value.value?_source {depth : Nat} (v : Value) (h : v.Regular depth) :
    v.source.value? depth = some v := by
  cases v with
  | null | bool | number | string => rfl
  | array items =>
    have hitems := values?_sources items h.2
    rw [Value.source, Source.value?, if_neg (Nat.ne_of_gt h.1), hitems]
    rfl
  | object members =>
    have hmembers := members?_memberSources members h.2.2
    rw [Value.source, Source.value?, if_neg (Nat.ne_of_gt h.1), hmembers]
    simp [Entries.ofList_of_sorted h.2.1]

theorem Value.values?_sources {depth : Nat} (items : List Value)
    (h : Value.RegularItems depth items) :
    Source.values? depth (Value.sources items) = some items := by
  match items with
  | [] => rfl
  | v :: rest =>
    rw [Value.sources, Source.values?, value?_source v h.1, values?_sources rest h.2]
    rfl

theorem Value.members?_memberSources {depth : Nat} (members : List (String × Value))
    (h : Value.RegularMembers depth members) :
    Source.members? depth (Value.memberSources members) = some members := by
  match members with
  | [] => rfl
  | (k, v) :: rest =>
    rw [Value.memberSources, Source.members?, value?_source v h.1,
      members?_memberSources rest h.2]
    rfl

end

private theorem Value.regularMembers_iff {depth : Nat} {members : List (String × Value)} :
    Value.RegularMembers depth members ↔ ∀ p ∈ members, p.2.Regular depth := by
  induction members with
  | nil => simp [RegularMembers]
  | cons p rest ih => simp [RegularMembers, ih]

mutual

theorem Source.regular_of_value? {depth : Nat} (s : Source) {v : Value}
    (h : s.value? depth = some v) : v.Regular depth := by
  cases s with
  | null | bool =>
    cases h
    trivial
  | number n | string n =>
    obtain ⟨x, -, rfl⟩ := Option.map_eq_some_iff.mp h
    trivial
  | array items =>
    rw [Source.value?] at h
    split at h
    · cases h
    · next hdepth =>
      obtain ⟨vs, hvs, rfl⟩ := Option.map_eq_some_iff.mp h
      exact ⟨Nat.pos_of_ne_zero hdepth, regularItems_of_values? items hvs⟩
  | object members =>
    rw [Source.value?] at h
    split at h
    · cases h
    · next hdepth =>
      obtain ⟨ms, hms, rfl⟩ := Option.map_eq_some_iff.mp h
      have hregular := Value.regularMembers_iff.mp (regularMembers_of_members? members hms)
      refine ⟨Nat.pos_of_ne_zero hdepth, Entries.sorted_ofList ms, ?_⟩
      exact Value.regularMembers_iff.mpr fun p hp => hregular p (Entries.mem_of_mem_ofList hp)

theorem Source.regularItems_of_values? {depth : Nat} (items : List Source) {vs : List Value}
    (h : Source.values? depth items = some vs) : Value.RegularItems depth vs := by
  match items with
  | [] =>
    cases h
    trivial
  | s :: rest =>
    simp only [Source.values?, Option.bind_eq_bind, Option.bind_eq_some_iff, Option.pure_def,
      Option.some.injEq] at h
    obtain ⟨v, hv, vs', hvs, rfl⟩ := h
    exact ⟨regular_of_value? s hv, regularItems_of_values? rest hvs⟩

theorem Source.regularMembers_of_members? {depth : Nat} (members : List (Option String × Source))
    {ms : List (String × Value)} (h : Source.members? depth members = some ms) :
    Value.RegularMembers depth ms := by
  match members with
  | [] =>
    cases h
    trivial
  | (name, s) :: rest =>
    simp only [Source.members?, Option.bind_eq_bind, Option.bind_eq_some_iff, Option.pure_def,
      Option.some.injEq] at h
    obtain ⟨k, -, v, hv, ms', hms, rfl⟩ := h
    exact ⟨regular_of_value? s hv, regularMembers_of_members? rest hms⟩

end

private theorem Value.sources_eq (items : List Value) :
    Value.sources items = items.map Value.source := by
  induction items with
  | nil => rfl
  | cons v rest ih => rw [Value.sources, ih, List.map_cons]

private theorem Value.memberSources_eq (members : List (String × Value)) :
    Value.memberSources members = members.map fun p => (some p.1, p.2.source) := by
  induction members with
  | nil => rfl
  | cons p rest ih =>
    obtain ⟨k, v⟩ := p
    rw [Value.memberSources, ih, List.map_cons]

/-! ## Lists and entries -/

namespace Decoder

variable {α : Type} {d : Decoder α} {write : α → Value} {depth : Nat}

@[simp] theorem string_source (s : String) : string depth (Value.string s).source = some s := rfl

@[simp] theorem bool_source (b : Bool) : bool depth (Value.bool b).source = some b := rfl

@[simp] theorem nullable_text? (s : Option String) :
    nullable string depth (Value.text? s).source = some s := by
  cases s <;> rfl

theorem ofText?_eq_some_iff {text : String} {x : α} : ofText? d text = some x ↔
    ∃ s, Source.read? text = some s ∧ d maxDepth s = some x := by
  simp only [ofText?, Option.bind_eq_bind, Option.bind_eq_some_iff]

theorem bool_eq_some_iff {s : Source} {b : Bool} : bool depth s = some b ↔ s = .bool b := by
  cases s <;> simp [bool]

theorem string_eq_some_iff {s : Source} {c : String} :
    string depth s = some c ↔ s = .string (some c) := by
  cases s <;> simp [string]

theorem string_isSome_iff {s : Source} :
    (string depth s).isSome ↔ ∃ c, s = .string (some c) := by
  simp only [Option.isSome_iff_exists, string_eq_some_iff]

theorem float_isSome_iff {s : Source} : (float depth s).isSome ↔ ∃ n, s = .number (some n) := by
  cases s with
  | number n => cases n <;> simp [float]
  | _ => simp [float]

theorem lt_of_natBits {bits n : Nat} {s : Source} (h : natBits bits depth s = some n) :
    n < 2 ^ bits := by
  have hpos := Nat.two_pow_pos bits
  simp only [natBits, Option.map_eq_some_iff] at h
  obtain ⟨i, hi, rfl⟩ := h
  unfold intBetween at hi
  split at hi
  · split at hi
    · next hrange =>
      cases hi
      simp only [Nat.pow_eq, Bool.and_eq_true, decide_eq_true_eq] at hrange
      omega
    · cases hi
  · cases hi

private theorem mapM_map_eq_some {β : Type} {f : α → β} {g : β → Option α} {xs : List α}
    (h : ∀ x ∈ xs, g (f x) = some x) : (xs.map f).mapM g = some xs := by
  induction xs with
  | nil => rfl
  | cons x xs ih =>
    have hx := h x List.mem_cons_self
    have hxs := ih fun y hy => h y (List.mem_cons_of_mem x hy)
    simp [hx, hxs]

theorem list_array {items : List α} (h : ∀ x ∈ items, d depth (write x).source = some x) :
    list d (depth + 1) (Value.array (items.map write)).source = some items := by
  rw [Value.source, Value.sources_eq, List.map_map]
  exact mapM_map_eq_some h

@[simp] theorem list_strings (items : List String) :
    list string (depth + 1) (Value.strings items).source = some items :=
  list_array fun _ _ => rfl

theorem entries_object {m : Entries α} (hm : Sorted m)
    (h : ∀ p ∈ m, d depth (write p.2).source = some p.2) :
    entries d (depth + 1) (Value.object (m.mapValues write)).source = some m := by
  rw [Value.source, Value.memberSources_eq, Entries.mapValues, List.map_map, entries,
    mapM_map_eq_some fun p hp => by simp [h p hp]]
  simp [Entries.ofList_of_sorted hm]

theorem entries_values {m : Members} (hm : Sorted m) (h : ∀ p ∈ m, p.2.Regular depth) :
    entries value (depth + 1) (Value.object m).source = some m := by
  have hvalues : ∀ p ∈ m, value depth (id p.2).source = some p.2 :=
    fun p hp => p.2.value?_source (h p hp)
  have hentries := @entries_object _ value id depth m hm hvalues
  simpa [Entries.mapValues] using hentries

private theorem forall_of_mapM {β : Type} {f : β → Option α} {P : α → Prop}
    (hf : ∀ y x, f y = some x → P x) {ys : List β} {xs : List α} (h : ys.mapM f = some xs) :
    ∀ x ∈ xs, P x := by
  induction ys generalizing xs with
  | nil =>
    cases h
    exact fun x hx => absurd hx List.not_mem_nil
  | cons y ys ih =>
    simp only [List.mapM_cons, Option.bind_eq_bind, Option.bind_eq_some_iff, Option.pure_def,
      Option.some.injEq] at h
    obtain ⟨x, hx, xs', hxs, rfl⟩ := h
    intro z hz
    rcases List.mem_cons.mp hz with rfl | hz
    · exact hf y z hx
    · exact ih hxs z hz

theorem forall_of_list {P : α → Prop} (hd : ∀ s x, d depth s = some x → P x) {s : Source}
    {xs : List α} (h : list d (depth + 1) s = some xs) : ∀ x ∈ xs, P x := by
  cases s with
  | array items => exact forall_of_mapM hd h
  | _ => cases h

theorem regular_of_entries {s : Source} {m : Members} (h : entries value (depth + 1) s = some m) :
    Sorted m ∧ ∀ p ∈ m, p.2.Regular depth := by
  cases s with
  | object members =>
    simp only [entries, Option.bind_eq_bind, Option.bind_eq_some_iff, Option.pure_def,
      Option.some.injEq] at h
    obtain ⟨read, hread, rfl⟩ := h
    refine ⟨Entries.sorted_ofList read, fun p hp => ?_⟩
    refine forall_of_mapM (P := fun p => p.2.Regular depth) (fun y x hx => ?_) hread p
      (Entries.mem_of_mem_ofList hp)
    simp only [Option.bind_eq_some_iff, Option.some.injEq] at hx
    obtain ⟨k, -, v, hv, rfl⟩ := hx
    exact Source.regular_of_value? y.2 hv
  | _ => cases h

end Decoder

/-! ## Records -/

namespace Record

variable {α : Type} {names : List String} {members : List (String × Value)} {depth : Nat}

theorem depth_of_ofSource? {others : List (String × String)} {s : Source} {r : Record}
    (h : Record.ofSource? names others (depth + 1) s = some r) : r.depth = depth := by
  cases s with
  | object members =>
    simp only [ofSource?, Option.bind_eq_bind, Option.bind_eq_some_iff, Option.pure_def,
      Option.some.injEq] at h
    obtain ⟨fields, -, rfl⟩ := h
    rfl
  | array items =>
    rw [ofSource?] at h
    split at h
    · cases h
      rfl
    · cases h
  | _ => cases h

theorem orElse_isSome_iff {r : Record} {name : String} {d : Decoder α} {default : α} :
    (r.orElse name d default).isSome ↔
      ∀ s, r.fields.lookup name = some s → (d r.depth s).isSome := by
  cases h : r.fields.lookup name <;> simp [orElse, h]

theorem optional_isSome_iff {r : Record} {name : String} {d : Decoder α} :
    (r.optional name d).isSome ↔
      (∀ s, r.fields.lookup name = some s → s = .null ∨ (d r.depth s).isSome) ∧
        (r.listed = true → (r.fields.lookup name).isSome) := by
  cases h : r.fields.lookup name with
  | none => cases hlisted : r.listed <;> simp [optional, h, hlisted]
  | some s => cases s <;> simp [optional, h, Decoder.nullable]

theorem optional_eq_some_some_iff {r : Record} {name : String} {d : Decoder α} {x : α} :
    r.optional name d = some (some x) ↔
      ∃ s, r.fields.lookup name = some s ∧ s ≠ .null ∧ d r.depth s = some x := by
  cases h : r.fields.lookup name with
  | none => cases hlisted : r.listed <;> simp [optional, h, hlisted]
  | some s => cases s <;> simp [optional, h, Decoder.nullable]

theorem of_orElse {r : Record} {name : String} {d : Decoder α} {default x : α}
    (h : r.orElse name d default = some x) : x = default ∨ ∃ s, d r.depth s = some x := by
  rw [orElse] at h
  split at h
  · exact .inr ⟨_, h⟩
  · cases h
    exact .inl rfl

/-- A record with the members as its fields. -/
def written (depth : Nat) (members : List (String × Value)) : Record :=
  ⟨false, depth, (Entries.ofList members).map fun p => (p.1, p.2.source)⟩

private theorem lookup_map_source (m : Members) (name : String) :
    (m.map fun p => (p.1, p.2.source)).lookup name = (Entries.get? m name).map Value.source := by
  induction m with
  | nil => rfl
  | cons p rest ih =>
    obtain ⟨k, v⟩ := p
    rw [List.map_cons, Entries.get?_cons, List.lookup_cons]
    by_cases h : k = name
    · simp [h]
    · have hne : (name == k) = false := beq_eq_false_iff_ne.mpr (Ne.symm h)
      simp only [hne, if_neg h]
      exact ih

private theorem knownFields_memberSources {m : Members} (hm : Sorted m)
    (hknown : ∀ p ∈ m, p.1 ∈ names) :
    knownFields names [] (Value.memberSources m) = some (m.map fun p => (p.1, p.2.source)) := by
  induction m with
  | nil => rfl
  | cons p rest ih =>
    obtain ⟨k, v⟩ := p
    obtain ⟨hk, hrest⟩ := List.pairwise_cons.mp hm
    have hfields := ih hrest fun q hq => hknown q (List.mem_cons_of_mem _ hq)
    have hname : names.contains k = true := List.contains_iff_mem.mpr (hknown _ List.mem_cons_self)
    have hnew : (rest.map fun p => (p.1, p.2.source)).lookup k = none := by
      rw [lookup_map_source, Entries.get?_of_lt_all hk]
      rfl
    rw [Value.memberSources, knownFields, hfields]
    simp [hnew, List.contains_iff_mem.mp hname]

private theorem ofSource?_record (hknown : ∀ p ∈ members, p.1 ∈ names) :
    Record.ofSource? names [] (depth + 1) (Value.record members).source =
      some (written depth members) := by
  have hfields := knownFields_memberSources (Entries.sorted_ofList members)
    fun p hp => hknown p (Entries.mem_of_mem_ofList hp)
  rw [Value.record, Value.source, Record.ofSource?, hfields]
  rfl

private theorem lookup_written (name : String) : (written depth members).fields.lookup name =
    (Entries.get? members.reverse name).map Value.source := by
  rw [written, lookup_map_source, Entries.get?_ofList]

theorem required_written (name : String) (d : Decoder α) :
    (written depth members).required name d =
      (Entries.get? members.reverse name).bind fun v => d depth v.source := by
  rw [required, lookup_written]
  cases Entries.get? members.reverse name <;> rfl

theorem orElse_written (name : String) (d : Decoder α) (default : α) :
    (written depth members).orElse name d default =
      (Entries.get? members.reverse name).elim (some default) fun v => d depth v.source := by
  rw [orElse, lookup_written]
  cases Entries.get? members.reverse name <;> rfl

theorem optional_written (name : String) (d : Decoder α) :
    (written depth members).optional name d =
      (Entries.get? members.reverse name).elim (some none) fun v =>
        Decoder.nullable d depth v.source := by
  rw [optional, lookup_written]
  cases Entries.get? members.reverse name <;> rfl

end Record

theorem Decoder.exists_of_record {α : Type} {names : List String} {read : Record → Option α}
    {depth : Nat} {s : Source} {x : α} (h : Decoder.record names read depth s = some x) :
    ∃ r, read r = some x := by
  obtain ⟨r, -, hr⟩ := Option.bind_eq_some_iff.mp h
  exact ⟨r, hr⟩

theorem Decoder.record_written {α : Type} {names : List String} {members : List (String × Value)}
    {depth : Nat} (read : Record → Option α) (hknown : ∀ p ∈ members, p.1 ∈ names) :
    Decoder.record names read (depth + 1) (Value.record members).source =
      read (Record.written depth members) := by
  rw [Decoder.record, Record.ofSource?_record hknown]
  rfl

end Automation.Json
