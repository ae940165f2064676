import Rollout.Yaml.Node

/-!
# Rollout.Yaml.Merge

Merge keys: a mapping puts the entries of the mappings under its keys `<<` before its own entries.

* `Graph.flatten` — the graph with the merge keys of a mapping replaced by what they merge, and with
  the keys `=` of that mapping as texts.

What is merged is flattened first, and of several mappings under one key the entries of the last one
come first.  A mapping may merge itself: a merge key is taken out before its value is looked at, so
what a mapping merges of itself are the entries that it has at that moment.
-/

namespace Rollout.Yaml.Graph

/-- The graph in which the keys `=` among some entries are texts. -/
def settleKeys (g : Graph) (entries : List (Ref × Ref)) : Graph :=
  entries.foldl (fun g (key, _) => if g.tag key = .value then g.setTag key .str else g) g

/-- Merges into a mapping whose first `index` entries have been passed and for which `merged` has
been collected.  The fuel bounds the number of merge keys, each of which is taken out once. -/
def merge : Nat → Ref → Nat → List (Ref × Ref) → StateT Graph (Except Fault) Unit
  | 0, _, _, _ => throw .form
  | fuel + 1, n, index, merged => do
    let g ← get
    let entries := g.entries n
    let passed := (entries.drop index).takeWhile fun (key, _) => g.tag key ≠ .merge
    let index := index + passed.length
    modify (settleKeys · passed)
    match entries.drop index with
    | [] => if merged ≠ [] then modify (setContent · n (.mapping (merged ++ entries)))
    | (_, value) :: _ =>
      modify (setContent · n (.mapping (entries.eraseIdx index)))
      let flat (m : Ref) : StateT Graph (Except Fault) (List (Ref × Ref)) := do
        if !isMapping (← get) m then throw .form
        merge fuel m 0 []
        return (← get).entries m
      let more ← match g.content value with
        | .sequence items => pure (← items.mapM flat).reverse.flatten
        | _ => flat value
      merge fuel n index (merged ++ more)

/-- The graph with a mapping flattened. -/
def flatten (fuel : Nat) (g : Graph) (n : Ref) : Except Fault Graph := do
  return (← (merge fuel n 0 []).run g).2

end Rollout.Yaml.Graph
