import Rollout.Document
import Rollout.Text.Base64
import Rollout.Yaml.Merge
import Rollout.Yaml.Number

/-!
# Rollout.Yaml.Value

The values that the nodes of a document stand for.

* `Values.ofGraph` — the value of the root, and what is in each collection.

A collection is filled after the collections that were met before it, so what it merges are the
entries that others have at that moment.
-/

namespace Rollout.Yaml

/-- The value of a node.  Two numbers that are none are the same key only if they have the same
origin. -/
inductive Value where
  | scalar (origin : Option Ref) (d : Document)
  | collection (n : Ref)
  | pair (first second : Value)
  deriving Repr, Inhabited

/-- What is in a collection. -/
inductive Filling where
  | list (items : List Value)
  | set (members : List Value)
  | map (entries : List (Value × Value))
  deriving Repr, Inhabited

/-! ## scalars -/

/-- Tags of scalars that have a value. -/
def Tag.isScalar (tag : Tag) : Bool :=
  tag ∈ [.null, .bool, .int, .float, .binary, .timestamp, .str]

/-- The value of a text with a tag. -/
def scalarValue (tag : Tag) (codes : List Nat) : Except Fault Document :=
  let s := Text.ofCodes codes
  match tag with
  | .null => .ok .null
  | .bool =>
    match Tag.truthWords.lookup s.toLower with
    | some b => .ok (.bool b)
    | none => .error .truthWord
  | .int => (integer s).map .int
  | .float => (real s).map .float
  | .binary =>
    match Text.ofBase64? s.toList with
    | some bytes => .ok (.bytes bytes)
    | none => .error .form
  | .timestamp => (instant s).map fun t => t.elim .date .time
  | .str => .ok (Document.ofCodes codes)
  | _ => .error .form

/-- Whether a text spells a number that is none in another way than by the word for it. -/
def isNewNan (tag : Tag) (codes : List Nat) (d : Document) : Bool :=
  match tag, d, realParts (Text.ofCodes codes) with
  | .float, .float .nan, .ok (_, body) => body ≠ nanWord
  | _, _, _ => false

namespace Graph

/-- The text of a scalar; a mapping stands for the value under its key `=`. -/
def codes : Nat → Graph → Ref → Except Fault (List Nat)
  | 0, _, _ => .error .tooDeep
  | fuel + 1, g, n =>
    match g.content n with
    | .scalar codes => .ok codes
    | .sequence _ => .error .form
    | .mapping entries =>
      match entries.find? fun (key, _) => g.tag key = .value with
      | some (_, value) => codes fuel g value
      | none => .error .form

/-- The value of a node that is no collection. -/
def scalar (g : Graph) (n : Ref) : Except Fault Value := do
  if !(g.tag n).isScalar then throw .form
  let codes ← codes (g.size + 1) g n
  if g.tag n = .timestamp ∧ g.isMapping n then throw .timestampOfMapping
  let d ← scalarValue (g.tag n) codes
  return .scalar (if isNewNan (g.tag n) codes d then some n else none) d

end Graph

/-! ## collections -/

/-- Tags of collections. -/
def Tag.isCollection (tag : Tag) : Bool := tag ∈ [.seq, .map, .set, .omap, .pairs]

/-- Whether two keys are the same key of a map. -/
def Value.sameKey : Value → Value → Bool
  | scalar o a, scalar p b => o = p && Document.sameKey a b
  | _, _ => false

/-- Adds an entry.  A key that is there already keeps its place and gets the new value. -/
def Value.insert (key value : Value) : List (Value × Value) → List (Value × Value)
  | [] => [(key, value)]
  | (k, v) :: rest =>
    if sameKey k key then (k, value) :: rest else (k, v) :: insert key value rest

/-- The state of filling: the graph, the values so far, what is in the collections, and the
collections that have to be filled yet, the last one first. -/
structure Values where
  graph : Graph
  made : Array (Option Value)
  fillings : Array (Option Filling)
  ahead : List Ref

/-- The making of values. -/
abbrev Make := StateT Values (Except Fault)

namespace Values

/-- Nothing is made yet. -/
def start (g : Graph) : Values where
  graph := g
  made := Array.replicate g.size none
  fillings := Array.replicate g.size none
  ahead := []

/-- Keeps the value of a node. -/
def keep (n : Ref) (v : Value) : Make Unit :=
  modify fun s => { s with made := s.made.setIfInBounds n (some v) }

/-- Puts a collection off. -/
def postpone (n : Ref) : Make Unit := modify fun s => { s with ahead := n :: s.ahead }

/-- Says what is in a collection. -/
def fillWith (n : Ref) (filling : Filling) : Make Unit :=
  modify fun s => { s with fillings := s.fillings.setIfInBounds n (some filling) }

/-- The entries of a mapping after merging. -/
def flatEntries (n : Ref) : Make (List (Ref × Ref)) := do
  let g := (← get).graph
  if !g.isMapping n then throw .form
  let g ← g.flatten (g.entryCount + 2) n
  modify fun s => { s with graph := g }
  return g.entries n

/-- The items of a sequence. -/
def items (n : Ref) : Make (List Ref) := do
  match (← get).graph.content n with
  | .sequence items => return items
  | _ => throw .form

/-- The only entry of a mapping. -/
def onlyEntry (n : Ref) : Make (Ref × Ref) := do
  match (← get).graph.content n with
  | .mapping [entry] => return entry
  | _ => throw .form

/-- The value of a node.  A collection is put off. -/
def value (n : Ref) : Make Value := do
  let s ← get
  match s.made.getD n none with
  | some v => return v
  | none =>
    let v ←
      if (s.graph.tag n).isCollection then do
        postpone n
        pure (.collection n)
      else s.graph.scalar n
    keep n v
    return v

/-- The entries of a map, made one after the other.  No key is a collection. -/
def keyed (entries : List (Ref × Ref)) : Make (List (Value × Value)) :=
  entries.foldlM (fun done (key, v) => do
    match ← value key with
    | .scalar origin d => return Value.insert (.scalar origin d) (← value v) done
    | _ => throw .form) []

/-- Fills a collection. -/
def fill (n : Ref) : Make Unit := do
  match (← get).graph.tag n with
  | .seq => fillWith n (.list (← (← items n).mapM value))
  | .map => fillWith n (.map (← keyed (← flatEntries n)))
  | .set => fillWith n (.set ((← keyed (← flatEntries n)).map (·.1)))
  | _ =>
    let pairs ← (← items n).mapM fun item => do
      let (first, second) ← onlyEntry item
      return Value.pair (← value first) (← value second)
    fillWith n (.list pairs)

/-- Fills what has been put off, and what that puts off.  The fuel bounds the number of rounds, in
each of which at least one collection is filled. -/
def fillAhead : Nat → Make Unit
  | 0 => pure ()
  | fuel + 1 => do
    let s ← get
    if s.ahead = [] then return
    set { s with ahead := [] }
    s.ahead.reverse.forM fill
    fillAhead fuel

/-- The value of the root of a graph, and what is in each collection. -/
def ofGraph (g : Graph) (root : Ref) : Except Fault (Value × Array (Option Filling)) := do
  let (v, s) ← (do
    let v ← value root
    fillAhead (g.size + 1)
    return v : Make Value).run (start g)
  return (v, s.fillings)

end Values

end Rollout.Yaml
