import Automation.Conversation.History

/-!
# What a history keeps

A history that is pushed to keeps the latest of all turns pushed, as many as its limit allows.
-/

namespace Automation.History

/-- The last `n` entries of a list. -/
def latest {α : Type} (n : Nat) (xs : List α) : List α := xs.drop (xs.length - n)

@[simp] theorem latest_nil {α : Type} (n : Nat) : latest n ([] : List α) = [] := by simp [latest]

theorem push_turns {h : History} {xs : List Model.Message} (hlimit : 0 < h.limit)
    (ht : h.turns = latest h.limit xs) (m : Model.Message) :
    (h.push m).turns = latest h.limit (xs ++ [m]) := by
  have hlength : h.turns.length = xs.length - (xs.length - h.limit) := by
    rw [ht, latest, List.length_drop]
  unfold push
  by_cases hfull : h.limit ≤ xs.length
  · have hlen : h.turns.length = h.limit := by omega
    have hsplit : (xs ++ [m]).length - h.limit = xs.length - h.limit + 1 := by
      rw [List.length_append, List.length_singleton]
      omega
    simp only [hlen, if_true]
    rw [ht, latest, latest, hsplit, List.drop_drop, List.drop_append_of_le_length (by omega)]
  · have hlen : h.turns.length ≠ h.limit := by omega
    have hnone : xs.length - h.limit = 0 := by omega
    have hnone' : (xs ++ [m]).length - h.limit = 0 := by
      rw [List.length_append, List.length_singleton]
      omega
    simp only [hlen, if_false]
    rw [ht, latest, latest, hnone, hnone', List.drop_zero, List.drop_zero]

end Automation.History
