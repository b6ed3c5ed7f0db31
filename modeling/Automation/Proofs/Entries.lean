import Automation.Entries
import Mathlib.Data.String.Basic
import Mathlib.Data.List.Induction

/-!
# Looking up entries

What stands under a key after an insertion, and after reading a list in. Entries in increasing order
of their keys are determined by what stands under each key.
-/

namespace Automation.Entries

variable {α : Type}

/-- The keys increase. -/
def Sorted (m : Entries α) : Prop := m.Pairwise fun p q => p.1 < q.1

@[simp] theorem get?_nil (key : String) : get? ([] : Entries α) key = none := rfl

theorem get?_cons (k : String) (v : α) (m : Entries α) (key : String) :
    get? ((k, v) :: m) key = if k = key then some v else get? m key := rfl

theorem get?_mapValues {β : Type} (f : α → β) (m : Entries α) (key : String) :
    get? (mapValues f m) key = (get? m key).map f := by
  induction m with
  | nil => rfl
  | cons p m ih =>
    obtain ⟨k, v⟩ := p
    rw [mapValues, List.map_cons, get?_cons, get?_cons]
    split
    · rfl
    · exact ih

theorem get?_insert (m : Entries α) (k key : String) (v : α) :
    get? (insert m k v) key = if k = key then some v else get? m key := by
  induction m with
  | nil => rfl
  | cons x m ih =>
    obtain ⟨l, u⟩ := x
    unfold insert
    split
    · rw [get?_cons]
    · split
      · next _ hk =>
        subst hk
        rw [get?_cons, get?_cons]
        by_cases h : k = key <;> simp [h]
      · next _ hk =>
        rw [get?_cons, get?_cons, ih]
        by_cases h : l = key
        · have hne : k ≠ key := fun he => hk (he.trans h.symm)
          simp [h, hne]
        · simp [h]

theorem mem_of_get? {m : Entries α} {key : String} {v : α} (h : get? m key = some v) :
    (key, v) ∈ m := by
  induction m with
  | nil => simp at h
  | cons x m ih =>
    obtain ⟨k, u⟩ := x
    rw [get?_cons] at h
    by_cases hk : k = key
    · rw [if_pos hk, Option.some.injEq] at h
      simp [hk, h]
    · rw [if_neg hk] at h
      exact List.mem_cons_of_mem _ (ih h)

theorem get?_eq_none_of_notMem {m : Entries α} {key : String} (h : key ∉ m.map Prod.fst) :
    get? m key = none := by
  by_contra hne
  obtain ⟨v, hv⟩ := Option.ne_none_iff_exists'.mp hne
  exact h (List.mem_map_of_mem (mem_of_get? hv))

theorem has_eq_false_iff {m : Entries α} {key : String} :
    has m key = false ↔ key ∉ keys m := by
  rw [has, Option.isSome_eq_false_iff, Option.isNone_iff_eq_none]
  refine ⟨fun h hmem => ?_, get?_eq_none_of_notMem⟩
  induction m with
  | nil => cases hmem
  | cons p m ih =>
    rw [get?_cons] at h
    split at h
    · cases h
    · next hne =>
      rcases List.mem_cons.mp hmem with rfl | hmem
      · exact hne rfl
      · exact ih h hmem

theorem get?_of_mem {m : Entries α} (hn : (m.map Prod.fst).Nodup) {key : String} {v : α}
    (h : (key, v) ∈ m) : get? m key = some v := by
  induction m with
  | nil => simp at h
  | cons x m ih =>
    obtain ⟨k, u⟩ := x
    obtain ⟨hk, hn⟩ := List.nodup_cons.mp hn
    rw [get?_cons]
    rcases List.mem_cons.mp h with he | hm
    · obtain ⟨rfl, rfl⟩ := Prod.mk.inj he
      simp
    · have hne : k ≠ key := fun he => hk (List.mem_map.mpr ⟨(key, v), hm, he.symm⟩)
      rw [if_neg hne, ih hn hm]

/-! ## Reading a list in -/

theorem ofList_concat (items : List (String × α)) (k : String) (v : α) :
    ofList (items ++ [(k, v)]) = insert (ofList items) k v := by
  simp [ofList]

/-- The last of several items with one key counts. -/
theorem get?_ofList (items : List (String × α)) (key : String) :
    get? (ofList items) key = get? items.reverse key := by
  induction items using List.reverseRecOn with
  | nil => rfl
  | append_singleton items x ih =>
    obtain ⟨k, v⟩ := x
    rw [ofList_concat, get?_insert, ih, List.reverse_append]
    rfl

theorem mem_keys_insert {m : Entries α} {k key : String} {v : α} :
    key ∈ keys (insert m k v) ↔ key = k ∨ key ∈ keys m := by
  induction m with
  | nil => simp [insert, keys]
  | cons x m ih =>
    obtain ⟨l, u⟩ := x
    simp only [keys] at ih
    unfold insert
    split
    · simp [keys]
    · split
      · next _ hk => simp [keys, hk]
      · simp only [keys, List.map_cons, List.mem_cons, ih]
        tauto

theorem mem_keys_ofList {items : List (String × α)} {key : String} :
    key ∈ keys (ofList items) ↔ key ∈ items.map Prod.fst := by
  induction items using List.reverseRecOn with
  | nil => simp [ofList, keys]
  | append_singleton items x ih =>
    obtain ⟨k, v⟩ := x
    rw [ofList_concat, mem_keys_insert, ih]
    simp [or_comm]

theorem mem_of_mem_insert {m : Entries α} {k : String} {v : α} {p : String × α}
    (h : p ∈ insert m k v) : p = (k, v) ∨ p ∈ m := by
  induction m with
  | nil => simpa [insert] using h
  | cons x m ih =>
    obtain ⟨l, u⟩ := x
    unfold insert at h
    split at h
    · simpa using h
    · split at h
      · exact (List.mem_cons.mp h).imp_right (List.mem_cons_of_mem _)
      · rcases List.mem_cons.mp h with rfl | h
        · simp
        · exact (ih h).imp_right (List.mem_cons_of_mem _)

theorem forall_insert {m : Entries α} {k : String} {v : α} {P : String × α → Prop}
    (h : ∀ p ∈ m, P p) (hv : P (k, v)) : ∀ p ∈ insert m k v, P p := by
  intro p hp
  rcases mem_of_mem_insert hp with rfl | hp
  · exact hv
  · exact h p hp

theorem mem_of_mem_ofList {items : List (String × α)} {p : String × α} (h : p ∈ ofList items) :
    p ∈ items := by
  induction items using List.reverseRecOn with
  | nil => simp [ofList] at h
  | append_singleton items x ih =>
    obtain ⟨k, v⟩ := x
    rw [ofList_concat] at h
    rcases mem_of_mem_insert h with rfl | h
    · simp
    · exact List.mem_append_left _ (ih h)

/-! ## Order -/

theorem sorted_insert {m : Entries α} (h : Sorted m) (k : String) (v : α) :
    Sorted (insert m k v) := by
  induction m with
  | nil => simp [insert, Sorted]
  | cons x m ih =>
    obtain ⟨l, u⟩ := x
    obtain ⟨hl, hm⟩ := List.pairwise_cons.mp h
    unfold insert
    split
    · next hk =>
      refine List.pairwise_cons.mpr ⟨fun p hp => ?_, h⟩
      rcases List.mem_cons.mp hp with rfl | hp
      · exact hk
      · exact hk.trans (hl p hp)
    · split
      · next _ hk =>
        subst hk
        exact List.pairwise_cons.mpr ⟨hl, hm⟩
      · next hlt hk =>
        refine List.pairwise_cons.mpr ⟨fun p hp => ?_, ih hm⟩
        have hkey : p.1 ∈ keys (insert m k v) := List.mem_map_of_mem hp
        rcases mem_keys_insert.mp hkey with he | hmem
        · rw [he]
          exact lt_of_le_of_ne (not_lt.mp hlt) (Ne.symm hk)
        · obtain ⟨q, hq, he⟩ := List.mem_map.mp hmem
          rw [← he]
          exact hl q hq

theorem sorted_ofList (items : List (String × α)) : Sorted (ofList items) := by
  induction items using List.reverseRecOn with
  | nil => exact List.Pairwise.nil
  | append_singleton items x ih =>
    rw [ofList_concat]
    exact sorted_insert ih _ _

private theorem insert_of_lt_all {m : Entries α} {k : String} {v : α} (h : ∀ p ∈ m, p.1 < k) :
    insert m k v = m ++ [(k, v)] := by
  induction m with
  | nil => rfl
  | cons x m ih =>
    obtain ⟨l, u⟩ := x
    have hl : l < k := h (l, u) List.mem_cons_self
    rw [insert, if_neg (not_lt.mpr hl.le), if_neg hl.ne',
      ih fun p hp => h p (List.mem_cons_of_mem _ hp)]
    rfl

theorem ofList_of_sorted {m : Entries α} (h : Sorted m) : ofList m = m := by
  induction m using List.reverseRecOn with
  | nil => rfl
  | append_singleton m x ih =>
    obtain ⟨k, v⟩ := x
    obtain ⟨hm, -, hlast⟩ := List.pairwise_append.mp h
    rw [ofList_concat, ih hm, insert_of_lt_all fun p hp => hlast p hp (k, v) List.mem_cons_self]

theorem get?_of_lt_all {m : Entries α} {key : String} (h : ∀ p ∈ m, key < p.1) :
    get? m key = none := by
  apply get?_eq_none_of_notMem
  intro hm
  obtain ⟨p, hp, he⟩ := List.mem_map.mp hm
  exact lt_irrefl key (he ▸ h p hp)

theorem ext_get? {m n : Entries α} (hm : Sorted m) (hn : Sorted n)
    (h : ∀ key, get? m key = get? n key) : m = n := by
  induction m generalizing n with
  | nil =>
    cases n with
    | nil => rfl
    | cons y n =>
      obtain ⟨l, u⟩ := y
      simpa [get?_cons] using h l
  | cons x m ih =>
    obtain ⟨k, v⟩ := x
    cases n with
    | nil => simpa [get?_cons] using h k
    | cons y n =>
      obtain ⟨l, u⟩ := y
      obtain ⟨hk, hm'⟩ := List.pairwise_cons.mp hm
      obtain ⟨hl, hn'⟩ := List.pairwise_cons.mp hn
      -- the smaller of the two first keys would be missing on the other side
      have hkl : k = l := by
        rcases lt_trichotomy k l with hlt | he | hgt
        · have hnone : get? ((l, u) :: n) k = none := get?_of_lt_all fun p hp => by
            rcases List.mem_cons.mp hp with rfl | hp
            · exact hlt
            · exact hlt.trans (hl p hp)
          simpa [hnone, get?_cons] using h k
        · exact he
        · have hnone : get? ((k, v) :: m) l = none := get?_of_lt_all fun p hp => by
            rcases List.mem_cons.mp hp with rfl | hp
            · exact hgt
            · exact hgt.trans (hk p hp)
          simpa [hnone, get?_cons] using h l
      subst hkl
      have hv : v = u := by simpa [get?_cons] using h k
      have htail : m = n := ih hm' hn' fun key => by
        by_cases hkey : k = key
        · subst hkey
          rw [get?_of_lt_all hk, get?_of_lt_all hl]
        · simpa [get?_cons, hkey] using h key
      rw [hv, htail]

end Automation.Entries
