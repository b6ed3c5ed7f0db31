import Automation.Proofs.Template.Loading

/-!
# Catalogs on top of each other

A catalog on top of another one takes over the places of the ids that both have, and its other
templates follow in their order. On catalogs with different ids this is an ordered union in which
the upper catalog wins.
-/

namespace Automation.Catalog

variable {ts rest : List Template} {t u : Template} {a b c : Catalog} {id : String}

/-- What stands in the place of a template when the catalog is put on top. -/
def instead (c : Catalog) (t : Template) : Template := (c.get? t.id).getD t

@[simp] theorem id_instead (c : Catalog) (t : Template) : (c.instead t).id = t.id := by
  unfold instead
  cases h : c.get? t.id with
  | none => rfl
  | some u => exact id_of_get? h

private theorem instead_of_notMem (h : t.id ∉ c.ids) : c.instead t = t := by
  rw [instead, get?_eq_none_iff.mpr h, Option.getD_none]

private theorem Distinct.instead_of_mem (hc : c.Distinct) (ht : t ∈ c.templates) :
    c.instead t = t := by
  rw [instead, hc.get?_of_mem ht, Option.getD_some]

private theorem instead_singleton (u t : Template) :
    (⟨[u]⟩ : Catalog).instead t = if u.id = t.id then u else t := by
  by_cases h : u.id = t.id <;> simp [instead, get?, h]

private theorem instead_cons (h : u.id ∉ (⟨rest⟩ : Catalog).ids) (t : Template) :
    (⟨u :: rest⟩ : Catalog).instead t =
      (⟨rest⟩ : Catalog).instead ((⟨[u]⟩ : Catalog).instead t) := by
  rw [instead_singleton]
  split
  · next heq =>
    rw [instead_of_notMem h]
    simp [instead, get?, heq]
  · next hne => simp [instead, get?, hne]

/-! ## One template more -/

private theorem put_eq (hts : (ts.map (·.id)).Nodup) (t : Template) : put t ts =
    ts.map (⟨[t]⟩ : Catalog).instead ++ if t.id ∈ ts.map (·.id) then [] else [t] := by
  induction ts with
  | nil => rfl
  | cons s rest ih =>
    obtain ⟨hs, hrest⟩ := List.nodup_cons.mp hts
    rw [put, List.map_cons, instead_singleton]
    by_cases heq : s.id = t.id
    · have hkeep : rest.map (⟨[t]⟩ : Catalog).instead = rest := by
        rw [List.map_congr_left, List.map_id']
        intro r hr
        rw [instead_singleton, if_neg]
        intro hid
        exact hs (List.mem_map.mpr ⟨r, hr, hid.symm.trans heq.symm⟩)
      rw [if_pos heq, if_pos heq.symm, hkeep]
      simp [heq]
    · rw [if_neg heq, if_neg (Ne.symm heq), ih hrest]
      simp [Ne.symm heq]

private theorem ids_put (hts : (ts.map (·.id)).Nodup) (t : Template) : (put t ts).map (·.id) =
    ts.map (·.id) ++ if t.id ∈ ts.map (·.id) then [] else [t.id] := by
  rw [put_eq hts, List.map_append, List.map_map]
  congr 1
  · exact List.map_congr_left fun s _ => id_instead _ s
  · split <;> rfl

private theorem nodup_put (hts : (ts.map (·.id)).Nodup) (t : Template) :
    ((put t ts).map (·.id)).Nodup := by
  rw [ids_put hts]
  split
  · rwa [List.append_nil]
  · next hnew => exact List.nodup_append_comm.mp (List.nodup_cons.mpr ⟨hnew, hts⟩)

/-! ## Many templates more -/

private theorem foldl_put (hts : (ts.map (·.id)).Nodup) (hrest : (rest.map (·.id)).Nodup) :
    rest.foldl (fun ts t => put t ts) ts = ts.map (⟨rest⟩ : Catalog).instead ++
      rest.filter fun t => !(ts.map (·.id)).contains t.id := by
  induction rest generalizing ts with
  | nil =>
    have hnothing : (⟨[]⟩ : Catalog).instead = fun t => t := rfl
    simp [hnothing]
  | cons u rest ih =>
    obtain ⟨hu, hrest⟩ := List.nodup_cons.mp hrest
    have hstay : (ts.map (⟨[u]⟩ : Catalog).instead).map (⟨rest⟩ : Catalog).instead =
        ts.map (⟨u :: rest⟩ : Catalog).instead := by
      rw [List.map_map]
      exact List.map_congr_left fun t _ => (instead_cons hu t).symm
    have hself : (⟨rest⟩ : Catalog).instead u = u := instead_of_notMem hu
    have hnew : (rest.filter fun t => !((put u ts).map (·.id)).contains t.id) =
        rest.filter fun t => !(ts.map (·.id)).contains t.id := by
      apply List.filter_congr
      intro t ht
      have hne : t.id ≠ u.id := fun hid => hu (List.mem_map.mpr ⟨t, ht, hid⟩)
      rw [ids_put hts]
      split <;> simp [hne]
    rw [List.foldl_cons, ih (nodup_put hts u) hrest, hnew, put_eq hts, List.map_append, hstay,
      List.append_assoc, List.filter_cons]
    congr 1
    split
    · next hmem => simpa using hmem
    · next hmem => simpa [hself] using hmem

/-- All places stay, each with what is put there, and what is new follows. -/
theorem templates_merge (ha : a.Distinct) (hb : b.Distinct) : (a.merge b).templates =
    a.templates.map b.instead ++ b.templates.filter fun t => !a.ids.contains t.id :=
  foldl_put ha hb

private theorem ids_merge (ha : a.Distinct) (hb : b.Distinct) :
    (a.merge b).ids = a.ids ++ b.ids.filter fun id => !a.ids.contains id := by
  rw [ids, templates_merge ha hb, List.map_append, List.map_map, ids, ids, List.filter_map]
  congr 1
  exact List.map_congr_left fun t _ => id_instead b t

private theorem Distinct.merge (ha : a.Distinct) (hb : b.Distinct) : (a.merge b).Distinct := by
  rw [Distinct, ids_merge ha hb, List.nodup_append]
  refine ⟨ha, hb.filter _, ?_⟩
  rintro id hid id' hid' rfl
  simpa [hid] using List.of_mem_filter hid'

/-- The upper catalog answers first. -/
theorem get?_merge (ha : a.Distinct) (hb : b.Distinct) (id : String) :
    (a.merge b).get? id = (b.get? id).or (a.get? id) := by
  have hplace : (a.templates.map b.instead).find? (·.id == id) = (a.get? id).map b.instead := by
    rw [List.find?_map, get?]
    congr 2
    funext t
    rw [Function.comp_apply, id_instead]
  rw [get?, templates_merge ha hb, List.find?_append, hplace]
  cases hget : a.get? id with
  | some t =>
    have hid : t.id = id := id_of_get? hget
    cases hup : b.get? id <;> simp [instead, hid, hup]
  | none =>
    have hnew : id ∉ a.ids := get?_eq_none_iff.mp hget
    rw [Option.map_none, Option.none_or, Option.or_none, List.find?_filter, get?]
    congr 1
    funext t
    by_cases hid : t.id = id <;> simp [hid, hnew]

private theorem merge_self (ha : a.Distinct) : a.merge a = a := by
  have hkeep : a.templates.map a.instead = a.templates := by
    rw [List.map_congr_left fun t ht => ha.instead_of_mem ht, List.map_id']
  have hnone : (a.templates.filter fun t => !a.ids.contains t.id) = [] := by
    rw [List.filter_eq_nil_iff]
    intro t ht
    have hid : t.id ∈ a.ids := List.mem_map_of_mem ht
    simp [hid]
  have htemplates := templates_merge ha ha
  rw [hkeep, hnone, List.append_nil] at htemplates
  exact congrArg Catalog.mk htemplates

private theorem instead_merge (hb : b.Distinct) (hc : c.Distinct) (t : Template) :
    (b.merge c).instead t = c.instead (b.instead t) := by
  rw [instead, get?_merge hb hc, instead, id_instead, instead]
  cases c.get? t.id <;> rfl

private theorem merge_assoc (ha : a.Distinct) (hb : b.Distinct) (hc : c.Distinct) :
    (a.merge b).merge c = a.merge (b.merge c) := by
  have hplaces : (a.templates.map b.instead).map c.instead =
      a.templates.map (b.merge c).instead := by
    rw [List.map_map]
    exact List.map_congr_left fun t _ => (instead_merge hb hc t).symm
  have hsecond : ((b.templates.map c.instead).filter fun t => !a.ids.contains t.id) =
      (b.templates.filter fun t => !a.ids.contains t.id).map c.instead := by
    rw [List.filter_map]
    congr 2
    funext t
    rw [Function.comp_apply, id_instead]
  have hthird : (c.templates.filter fun t => !(a.merge b).ids.contains t.id) =
      (c.templates.filter fun t => !b.ids.contains t.id).filter fun t => !a.ids.contains t.id := by
    rw [List.filter_filter, ids_merge ha hb]
    apply List.filter_congr
    intro t _
    by_cases hid : t.id ∈ a.ids <;> simp [hid]
  have htemplates : ((a.merge b).merge c).templates = (a.merge (b.merge c)).templates := by
    rw [templates_merge (ha.merge hb) hc, templates_merge ha hb, templates_merge ha (hb.merge hc),
      templates_merge hb hc, List.map_append, List.filter_append, hplaces, hsecond, hthird,
      List.append_assoc]
  exact congrArg Catalog.mk htemplates

/-- Loaded catalogs on top of each other are an ordered union: ids stay different, the upper catalog
answers first, its new ids stand behind all others in its own order, a catalog on top of itself
changes nothing, and it makes no difference which two of three are put together first. -/
theorem merge_orderedUnion {as bs cs : List Template} (ha : Loaded as a) (hb : Loaded bs b)
    (hc : Loaded cs c) :
    (a.merge b).ids.Nodup ∧
      (∀ id, (a.merge b).get? id = if id ∈ b.ids then b.get? id else a.get? id) ∧
      (a.merge b).ids = a.ids ++ b.ids.filter (· ∉ a.ids) ∧
      a.merge a = a ∧
      (a.merge b).merge c = a.merge (b.merge c) := by
  have ha := ha.distinct
  have hb := hb.distinct
  have hc := hc.distinct
  refine ⟨ha.merge hb, ?_, ?_, merge_self ha, merge_assoc ha hb hc⟩
  · intro id
    rw [get?_merge ha hb]
    split
    · next hid =>
      obtain ⟨t, ht⟩ := mem_ids_iff.mp hid
      rw [ht, Option.some_or]
    · next hid => rw [get?_eq_none_iff.mpr hid, Option.none_or]
  · rw [ids_merge ha hb]
    congr 1
    apply List.filter_congr
    intro id _
    simp

/-- The file entry of a template with this id. -/
def entry (id : String) : String :=
  "[[templates]]\nid = \"" ++ id ++ "\"\nname = \"T\"\ncategory = \"data\"\n" ++
    "steps = [[\"s\", \"d\", \"o\"]]\n"

/-- A file replaces one of the standard templates and another file one of the new ones. -/
theorem merge_orderedUnion_files : ∃ bs b cs c, Loaded Template.Standard.all standard ∧
    Loaded bs b ∧ Loaded cs c ∧ b.ids = ["errand", "create-task"] ∧ c.ids = ["errand"] ∧
      (standard.merge b).ids = standard.ids ++ ["errand"] ∧
      (standard.merge b).get? "create-task" = b.get? "create-task" ∧
      (standard.merge b).get? "send-email" = standard.get? "send-email" ∧
      (standard.merge b).merge c = standard.merge (b.merge c) := by
  obtain ⟨bs, b, hb, -, hids⟩ := exists_loaded
    (by decide +kernel : (ofToml (entry "errand" ++ entry "create-task")).toOption.map ids =
      some ["errand", "create-task"])
  obtain ⟨cs, c, hc, -, hids'⟩ := exists_loaded
    (by decide +kernel : (ofToml (entry "errand")).toOption.map ids = some ["errand"])
  obtain ⟨-, hget, hmerged, -, hassoc⟩ := merge_orderedUnion .standard hb hc
  refine ⟨bs, b, cs, c, .standard, hb, hc, hids, hids', ?_, ?_, ?_, hassoc⟩
  · rw [hmerged, hids]
    decide
  · rw [hget, hids, if_pos (by decide)]
  · rw [hget, hids, if_neg (by decide)]

end Automation.Catalog
