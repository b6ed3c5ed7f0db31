import Automation.Id

/-!
# Claims

The triggers that have a run which has not ended. One that is taken cannot be taken again before it
is given back.
-/

namespace Automation.Claims

/-- Takes a trigger if it is free, and tells whether it was. -/
def claim (taken : List Id) (id : Id) : Bool × List Id :=
  if taken.contains id then (false, taken) else (true, id :: taken)

def release (taken : List Id) (id : Id) : List Id := taken.filter (· ≠ id)

variable {taken : List Id} {id : Id}

theorem claim_of_mem (h : id ∈ taken) : claim taken id = (false, taken) := by
  simp [claim, h]

theorem claim_of_not_mem (h : id ∉ taken) : claim taken id = (true, id :: taken) := by
  simp [claim, h]

theorem of_claim {free : Bool} {after : List Id} (h : (free, after) = claim taken id) :
    (free = true ↔ id ∉ taken) ∧ after = if free then id :: taken else taken := by
  by_cases hid : id ∈ taken
  · rw [claim_of_mem hid] at h
    obtain ⟨rfl, rfl⟩ := Prod.mk.inj h
    simp [hid]
  · rw [claim_of_not_mem hid] at h
    obtain ⟨rfl, rfl⟩ := Prod.mk.inj h
    simp [hid]

theorem not_mem_release : id ∉ release taken id := by
  simp [release]

theorem mem_release {other : Id} (hne : other ≠ id) : other ∈ release taken id ↔ other ∈ taken := by
  simp [release, hne]

theorem release_cons (h : id ∉ taken) : release (id :: taken) id = taken := by
  unfold release
  rw [List.filter_cons_of_neg (by simp), List.filter_eq_self]
  intro other hmem
  have hne : other ≠ id := fun heq => h (heq ▸ hmem)
  simpa using hne

theorem release_perm {others : List Id} (h : (id :: others).Perm taken) (hn : taken.Nodup) :
    others.Perm (release taken id) := by
  have hothers : id ∉ others := (List.nodup_cons.mp (h.nodup_iff.mpr hn)).1
  have hfilter : (id :: others).filter (· ≠ id) = others := release_cons hothers
  have hperm := h.filter (· ≠ id)
  rw [hfilter] at hperm
  exact hperm

end Automation.Claims
