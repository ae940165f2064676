import Rollout.Yaml.Value

/-!
# Rollout.Yaml.Document

Documents from YAML texts.

* `Yaml.document` — the document that a text holds; null if it holds none.

A collection that contains itself is written out as often as `depthOfRepeats` says; no reader looks
as deep as that.
-/

namespace Rollout.Yaml

/-- The document of a value, given the documents of collections. -/
def Value.document (made : Array Document) : Value → Document
  | scalar _ d => d
  | collection n => made.getD n .endless
  | pair first second => .list [document made first, document made second]

/-- The collections that a value refers to. -/
def Value.refs : Value → List Ref
  | scalar _ _ => []
  | collection n => [n]
  | pair first second => refs first ++ refs second

namespace Filling

/-- The document of a collection, given those of the collections in it. -/
def document (made : Array Document) (n : Ref) : Filling → Document
  | list items => .list (items.map (·.document made))
  | set members => .set (members.map (·.document made))
  | map entries => .map (some n) (entries.map fun (k, v) => (k.document made, v.document made))

/-- The collections that are in a collection. -/
def refs : Filling → List Ref
  | list items => items.flatMap Value.refs
  | set _ => []
  | map entries => entries.flatMap fun (_, v) => v.refs

end Filling

/-- How often a collection that contains itself is written out. -/
def depthOfRepeats : Nat := 12

/-- The number of references from a collection to itself or to one before it. -/
def backRefs (fillings : Array (Option Filling)) : Nat :=
  fillings.foldl (fun (count, n) filling =>
    (count + ((filling.elim [] Filling.refs).filter (· ≤ n)).length, n + 1)) (0, 0) |>.1

/-- The documents of all collections, made from the last one to the first, given those of an earlier
round. -/
def round (fillings : Array (Option Filling)) (made : Array Document) : Array Document :=
  (List.range fillings.size).foldr (fun n made =>
    match fillings.getD n none with
    | some filling => made.setIfInBounds n (filling.document made n)
    | none => made) made

/-- The documents of all collections after as many rounds. -/
def rounds (fillings : Array (Option Filling)) : Nat → Array Document → Array Document
  | 0, made => made
  | count + 1, made => rounds fillings count (round fillings made)

/-- The documents of all collections.  Without references back one round is enough; otherwise each
round follows one more of them. -/
def documents (fillings : Array (Option Filling)) : Array Document :=
  let back := backRefs fillings
  let count := if back = 0 then 1 else back + 1 + depthOfRepeats
  rounds fillings count (Array.replicate fillings.size .endless)

/-- The document that a YAML text holds. -/
def document (s : String) : Except Fault Document := do
  match ← Graph.ofTokens (Token.ofText s.toList) with
  | none => return .null
  | some (g, root) =>
    let (v, fillings) ← Values.ofGraph g root
    return v.document (documents fillings)

end Rollout.Yaml
