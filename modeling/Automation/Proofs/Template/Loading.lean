import Automation.Template.Catalog
import Mathlib.Data.List.Nodup

/-!
# Loaded catalogs

A catalog that was read from a file holds the templates of the file in their order, with their
keywords in normal form. No two have the same id and each has steps; a file whose templates are not
like this is refused.
-/

namespace Automation

/-- The template as a catalog keeps it. -/
def Template.kept (t : Template) : Template :=
  { t with keywords := normalizeKeywords t.keywords }

@[simp] theorem Template.keywords_kept (t : Template) :
    t.kept.keywords = normalizeKeywords t.keywords := rfl

namespace Catalog

variable {c c' : Catalog} {t : Template} {id : String}

/-- The ids of the templates, in their order. -/
def ids (c : Catalog) : List String := c.templates.map (·.id)

/-- No two templates have the same id. -/
def Distinct (c : Catalog) : Prop := c.ids.Nodup

theorem get?_eq_none_iff : c.get? id = none ↔ id ∉ c.ids := by
  simp [get?, ids]

theorem mem_ids_iff : id ∈ c.ids ↔ ∃ t, c.get? id = some t := by
  rw [← Option.isSome_iff_exists, ← not_iff_not, ← get?_eq_none_iff, Option.not_isSome_iff_eq_none]

theorem id_of_get? (h : c.get? id = some t) : t.id = id := by
  simpa using List.find?_some h

theorem Distinct.get?_of_mem (hc : c.Distinct) (ht : t ∈ c.templates) : c.get? t.id = some t := by
  obtain ⟨u, hu⟩ := mem_ids_iff.mp (List.mem_map_of_mem ht : t.id ∈ c.ids)
  have heq : u = t := List.inj_on_of_nodup_map hc (List.mem_of_find?_eq_some hu) ht (id_of_get? hu)
  rw [hu, heq]

private theorem add_eq_ok_iff : c.add t = .ok c' ↔
    t.id ∉ c.ids ∧ t.steps ≠ [] ∧ c'.templates = c.templates ++ [t.kept] := by
  rw [← get?_eq_none_iff]
  unfold add
  split
  · next hsome =>
    simp [Option.isSome_iff_ne_none.mp hsome]
  · next hnone =>
    rw [Option.not_isSome_iff_eq_none] at hnone
    split
    · next hempty =>
      simp [List.isEmpty_iff.mp hempty]
    · next hsteps =>
      have hne : t.steps ≠ [] := fun h => hsteps (List.isEmpty_iff.mpr h)
      obtain ⟨templates⟩ := c'
      simp [hnone, hne, Template.kept, eq_comm]

private theorem ids_of_templates (written : List Template)
    (h : c'.templates = c.templates ++ written.map Template.kept) :
    c'.ids = c.ids ++ written.map (·.id) := by
  rw [ids, h, List.map_append, List.map_map]
  rfl

private theorem foldlM_add_eq_ok_iff {written : List Template} (hc : c.Distinct) :
    written.foldlM add c = .ok c' ↔
      (c.ids ++ written.map (·.id)).Nodup ∧ (∀ t ∈ written, t.steps ≠ []) ∧
        c'.templates = c.templates ++ written.map Template.kept := by
  induction written generalizing c with
  | nil =>
    obtain ⟨templates⟩ := c'
    obtain ⟨templates'⟩ := c
    have hnodup : (⟨templates'⟩ : Catalog).ids.Nodup := hc
    simp [hnodup, pure, Except.pure, eq_comm]
  | cons t rest ih =>
    have hsplit : (t :: rest).foldlM add c = .ok c' ↔
        ∃ next, c.add t = .ok next ∧ rest.foldlM add next = .ok c' := by
      rw [List.foldlM_cons]
      cases c.add t <;> simp [bind, Except.bind]
    rw [hsplit]
    constructor
    · rintro ⟨next, hadd, hrest⟩
      obtain ⟨hnew, hsteps, htemplates⟩ := add_eq_ok_iff.mp hadd
      have hids : next.ids = c.ids ++ [t.id] := ids_of_templates [t] htemplates
      have hnext : next.Distinct := by
        rw [Distinct, hids]
        exact List.nodup_append_comm.mp (List.nodup_cons.mpr ⟨hnew, hc⟩)
      obtain ⟨hnodup, hall, htemplates'⟩ := (ih hnext).mp hrest
      refine ⟨?_, List.forall_mem_cons.mpr ⟨hsteps, hall⟩, ?_⟩
      · simpa [hids] using hnodup
      · rw [htemplates', htemplates]
        simp
    · rintro ⟨hnodup, hall, htemplates⟩
      obtain ⟨hsteps, hrest⟩ := List.forall_mem_cons.mp hall
      have hnodup' : (c.ids ++ [t.id] ++ rest.map (·.id)).Nodup := by simpa using hnodup
      have hnew : t.id ∉ c.ids :=
        (List.nodup_cons.mp (List.nodup_append_comm.mp hnodup'.of_append_left)).1
      refine ⟨⟨c.templates ++ [t.kept]⟩, add_eq_ok_iff.mpr ⟨hnew, hsteps, rfl⟩, ?_⟩
      have hids : (⟨c.templates ++ [t.kept]⟩ : Catalog).ids = c.ids ++ [t.id] :=
        ids_of_templates [t] rfl
      have hnext : (⟨c.templates ++ [t.kept]⟩ : Catalog).Distinct := by
        rw [Distinct, hids]
        exact hnodup'.of_append_left
      rw [ih hnext, hids]
      exact ⟨hnodup', hrest, by simpa using htemplates⟩

/-- A file is accepted just if it holds templates with different ids that all have steps, and these
make up the catalog. -/
theorem ofToml_eq_ok_iff {text : String} : ofToml text = .ok c ↔
    ∃ written, written? text = some written ∧ (written.map (·.id)).Nodup ∧
      (∀ t ∈ written, t.steps ≠ []) ∧ c.templates = written.map Template.kept := by
  unfold ofToml
  cases hread : written? text with
  | none => simp
  | some written =>
    have hempty : ({} : Catalog).Distinct := List.nodup_nil
    simp [foldlM_add_eq_ok_iff hempty, ids]

/-- The catalog was loaded and these are its templates as they are written: those of a file, or
those that are there without one. -/
inductive Loaded : List Template → Catalog → Prop where
  | file {text : String} {written : List Template} {c : Catalog} :
      written? text = some written → ofToml text = .ok c → Loaded written c
  | standard : Loaded Template.Standard.all standard

private theorem kept_of_standard {t : Template} (ht : t ∈ Template.Standard.all) : t.kept = t := by
  have hkeywords : ∀ t ∈ Template.Standard.all,
      Template.normalizeKeywords t.keywords = t.keywords := by
    decide +kernel
  rw [Template.kept, hkeywords t ht]

variable {written : List Template}

theorem Loaded.templates_eq (h : Loaded written c) : c.templates = written.map Template.kept := by
  cases h with
  | file hread hload =>
    obtain ⟨written', hread', -, -, htemplates⟩ := ofToml_eq_ok_iff.mp hload
    obtain rfl : written = written' := Option.some.inj (hread.symm.trans hread')
    exact htemplates
  | standard =>
    rw [List.map_congr_left fun t ht => kept_of_standard ht, List.map_id']
    rfl

theorem Loaded.distinct (h : Loaded written c) : c.Distinct := by
  cases h with
  | file hread hload =>
    obtain ⟨written', -, hnodup, -, htemplates⟩ := ofToml_eq_ok_iff.mp hload
    have hids : c.ids = written'.map (·.id) := ids_of_templates (c := {}) written' htemplates
    rwa [Distinct, hids]
  | standard =>
    rw [Distinct]
    decide

theorem exists_loaded {text : String} {names : List String}
    (h : (ofToml text).toOption.map ids = some names) :
    ∃ written c, Loaded written c ∧ written? text = some written ∧ c.ids = names := by
  cases hload : ofToml text with
  | error e =>
    rw [hload] at h
    cases h
  | ok c =>
    rw [hload] at h
    obtain ⟨written, hread, -⟩ := ofToml_eq_ok_iff.mp hload
    exact ⟨written, c, .file hread hload, hread, Option.some.inj h⟩

end Catalog

end Automation
