import Automation.Workflow.Basic

/-!
# Dependency cycles

A depth-first search through the steps in declaration order. A step that is met again while its own
dependencies are being searched closes a cycle, which is reported as the path from the step to
itself. Ids that no step declares are passed over.
-/

namespace Automation.Workflow

/-- The cycle that a step closes when it is met again: the part of the path, which is latest first,
that leads from the step back to it. -/
def closePath (path : List String) (id : String) : List String :=
  id :: (path.takeWhile (· ≠ id)).reverse ++ [id]

/-- Searches from `id`, which is reached by `path`, latest first. `done` holds the ids whose
dependencies are known to be without a cycle. The answer is a cycle, or the ids known afterwards. A
path holds declared ids only once, so `fuel` above their number is never used up. -/
def searchCycle (declared : List String) (dependencies : String → List String) :
    (fuel : Nat) → (path done : List String) → (id : String) → Except (List String) (List String)
  | 0, _, done, _ => .ok done
  | fuel + 1, path, done, id => do
    let path := id :: path
    let visit := fun done next =>
      if path.contains next then .error (closePath path next)
      else if declared.contains next && !done.contains next then
        searchCycle declared dependencies fuel path done next
      else .ok done
    let done ← (dependencies id).foldlM visit done
    return id :: done

/-- The first cycle found, as a path that ends where it starts. -/
def findCycle (w : Workflow) : Option (List String) :=
  let ids := w.steps.map (·.id)
  let visit := fun done id =>
    if done.contains id then .ok done
    else searchCycle ids w.dependenciesOf (ids.length + 1) [] done id
  match ids.foldlM visit [] with
  | .ok _ => none
  | .error cycle => some cycle

end Automation.Workflow
