import Rollout.Yaml.Tag
import Rollout.Yaml.Token

/-!
# Rollout.Yaml.Node

The nodes of a YAML document: scalars, sequences and mappings, each with its tag.  A node names the
nodes in it by their places in the graph of the document, so that an anchored node may stand in
several places, in itself too.

* `Graph.ofTokens` — the graph of the only document of a text, and its root; none if there is no
  document.

A node has its place before the nodes that are first met in it.  Parsing carries a fuel; every two
rounds consume a token.
-/

namespace Rollout.Yaml

/-- The place of a node in the graph of its document. -/
abbrev Ref := Nat

/-- What is in a node. -/
inductive Content where
  | scalar (codes : List Nat)
  | sequence (items : List Ref)
  | mapping (entries : List (Ref × Ref))
  deriving Repr, Inhabited

/-- A node of a document. -/
structure Node where
  tag : Tag
  content : Content
  deriving Repr, Inhabited

/-- The null that an empty place stands for. -/
def Node.empty : Node := ⟨.null, .scalar []⟩

/-- The nodes of a document. -/
abbrev Graph := Array Node

namespace Graph

/-- The tag of a node. -/
def tag (g : Graph) (n : Ref) : Tag := (g.getD n .empty).tag

/-- What is in a node. -/
def content (g : Graph) (n : Ref) : Content := (g.getD n .empty).content

/-- The entries of a mapping. -/
def entries (g : Graph) (n : Ref) : List (Ref × Ref) :=
  match g.content n with
  | .mapping entries => entries
  | _ => []

/-- Whether a node is a mapping. -/
def isMapping (g : Graph) (n : Ref) : Bool :=
  match g.content n with
  | .mapping _ => true
  | _ => false

/-- The graph with another tag for a node. -/
def setTag (g : Graph) (n : Ref) (tag : Tag) : Graph := g.modify n ({ · with tag })

/-- The graph with something else in a node. -/
def setContent (g : Graph) (n : Ref) (content : Content) : Graph := g.modify n ({ · with content })

/-- The number of entries of all mappings. -/
def entryCount (g : Graph) : Nat :=
  g.foldl (fun count node => match node.content with
    | .mapping entries => count + entries.length
    | _ => count) 0

/-! ## making the graph -/

/-- The state of parsing: the number of collections around the place, the tokens ahead, the short
forms of tags, the anchored nodes and all nodes so far. -/
structure Composer where
  depth : Nat
  tokens : List Token
  handles : List (String × String)
  anchors : List (String × Ref)
  nodes : Graph

/-- The making of nodes from tokens. -/
abbrev Compose := StateT Composer (Except Fault)

/-- The token ahead. -/
def peek : Compose Token := do
  match (← get).tokens with
  | .fault cause :: _ => throw cause
  | t :: _ => return t
  | [] => throw .form

/-- Passes the token ahead. -/
def drop : Compose Unit := modify fun s => { s with tokens := s.tokens.drop 1 }

/-- Passes the token ahead, which has to be `t`. -/
def expect (t : Token) : Compose Unit := do
  if (← peek) = t then drop else throw .form

/-- Passes the token ahead if it is `t`. -/
def accept (t : Token) : Compose Bool := do
  if (← peek) = t then
    drop
    return true
  else return false

/-- Adds a node. -/
def add (tag : Tag) (content : Content) : Compose Ref :=
  modifyGet fun s => (s.nodes.size, { s with nodes := s.nodes.push ⟨tag, content⟩ })

/-- How many collections may stand inside each other. -/
def mostNested : Nat := 487

/-- What is in a collection. -/
def inside {α : Type} (parts : Compose α) : Compose α := do
  if mostNested ≤ (← get).depth then throw .tooDeep
  modify fun s => { s with depth := s.depth + 1 }
  let a ← parts
  modify fun s => { s with depth := s.depth - 1 }
  return a

/-- Adds the null that an empty place stands for. -/
def addEmpty : Compose Ref := add .null (.scalar [])

/-- Puts something else into a node. -/
def put (n : Ref) (content : Content) : Compose Unit :=
  modify fun s => { s with nodes := s.nodes.setContent n content }

/-! ## properties of a node -/

/-- The anchor ahead. -/
def anchor? : Compose (Option String) := do
  match ← peek with
  | .anchor name =>
    drop
    return some name
  | _ => return none

/-- The tag ahead, its handle replaced. -/
def tag? : Compose (Option String) := do
  match ← peek with
  | .tag none suffix =>
    drop
    return some suffix
  | .tag (some handle) suffix =>
    drop
    match (← get).handles.lookup handle with
    | some expansion => return some (expansion ++ suffix)
    | none => throw .form
  | _ => return none

/-- An anchor and a tag, in either order, each at most once. -/
def properties : Compose (Option String × Option String) := do
  match ← anchor? with
  | some name => return (some name, ← tag?)
  | none =>
    let tag ← tag?
    return (← if tag.isSome then anchor? else pure none, tag)

/-- The tag of a collection. -/
def collectionTag (written : Option String) (usual : Tag) : Tag :=
  match written with
  | none | some "!" => usual
  | some s => Tag.ofText s

/-- The tag of a scalar. -/
def scalarTag (written : Option String) (plain : Bool) (codes : List Nat) : Tag :=
  match written with
  | some "!" => Tag.ofScalar (Text.ofCodes codes)
  | some s => Tag.ofText s
  | none => if plain then Tag.ofScalar (Text.ofCodes codes) else .str

/-- Lets a name stand for a node. -/
def define (name : Option String) (node : Ref) : Compose Unit :=
  match name with
  | none => pure ()
  | some name => modify fun s => { s with anchors := (name, node) :: s.anchors }

/-! ## grammar -/

/-- The places in which a node may stand: among the items of a block collection, also without
indentation of its own, or between flow brackets. -/
inductive Place where
  | block
  | indentless
  | flow
  deriving DecidableEq

/-- Whether an entry of a block mapping is missing: the next part follows at once. -/
def endsBlockPart (t : Token) : Bool := t = .key || t = .value || t = .blockEnd

mutual

/-- A node. -/
def node (place : Place) : Nat → Compose Ref
  | 0 => throw .form
  | fuel + 1 => do
    match ← peek with
    | .reference name =>
      drop
      match (← get).anchors.lookup name with
      | some n => return n
      | none => throw .form
    | _ =>
      let (name, written) ← properties
      let t ← peek
      let anchors := (← get).anchors
      if name.any fun name => (anchors.lookup name).isSome then throw .form
      match t with
      | .scalar plain codes =>
        drop
        let n ← add (scalarTag written plain codes) (.scalar codes)
        define name n
        return n
      | t =>
        let list : Option (Compose (List Ref)) :=
          if t = .dash ∧ place = .indentless then some (indentlessItems fuel)
          else if t = .openSequence then some (drop *> flowItems true fuel)
          else if t = .blockSequence ∧ place ≠ .flow then some (drop *> blockItems fuel)
          else none
        let pairs : Option (Compose (List (Ref × Ref))) :=
          if t = .openMapping then some (drop *> flowEntries true fuel)
          else if t = .blockMapping ∧ place ≠ .flow then some (drop *> blockEntries fuel)
          else none
        match list, pairs with
        | some items, _ =>
          let n ← add (collectionTag written .seq) (.sequence [])
          define name n
          put n (.sequence (← inside items))
          return n
        | none, some entries =>
          let n ← add (collectionTag written .map) (.mapping [])
          define name n
          put n (.mapping (← inside entries))
          return n
        | none, none =>
          if name.isNone ∧ written.isNone then throw .form
          let n ← add (scalarTag written true []) (.scalar [])
          define name n
          return n

/-- The items of a block sequence. -/
def blockItems : Nat → Compose (List Ref)
  | 0 => throw .form
  | fuel + 1 => do
    if ← accept .dash then
      let t ← peek
      let item ← if t = .dash ∨ t = .blockEnd then addEmpty else node .block fuel
      return item :: (← blockItems fuel)
    else
      expect .blockEnd
      return []

/-- The items of a block sequence that is indented like the mapping around it. -/
def indentlessItems : Nat → Compose (List Ref)
  | 0 => throw .form
  | fuel + 1 => do
    if ← accept .dash then
      let t ← peek
      let item ← if t = .dash ∨ endsBlockPart t then addEmpty else node .block fuel
      return item :: (← indentlessItems fuel)
    else return []

/-- The entries of a block mapping. -/
def blockEntries : Nat → Compose (List (Ref × Ref))
  | 0 => throw .form
  | fuel + 1 => do
    if ← accept .key then
      let key ← if endsBlockPart (← peek) then addEmpty else node .indentless fuel
      let value ←
        if ← accept .value then
          if endsBlockPart (← peek) then addEmpty else node .indentless fuel
        else addEmpty
      return (key, value) :: (← blockEntries fuel)
    else
      expect .blockEnd
      return []

/-- The items of a flow sequence; a pair in it is a mapping of its own. -/
def flowItems (first : Bool) : Nat → Compose (List Ref)
  | 0 => throw .form
  | fuel + 1 => do
    if ← accept .closeSequence then return []
    if !first then expect .comma
    if ← accept .key then
      let pair ← add .map (.mapping [])
      let t ← peek
      let key ←
        if t = .value ∨ t = .comma ∨ t = .closeSequence then addEmpty else node .flow fuel
      let value ←
        if ← accept .value then
          let t ← peek
          if t = .comma ∨ t = .closeSequence then addEmpty else node .flow fuel
        else addEmpty
      put pair (.mapping [(key, value)])
      return pair :: (← flowItems false fuel)
    else if ← accept .closeSequence then return []
    else
      let item ← node .flow fuel
      return item :: (← flowItems false fuel)

/-- The entries of a flow mapping. -/
def flowEntries (first : Bool) : Nat → Compose (List (Ref × Ref))
  | 0 => throw .form
  | fuel + 1 => do
    if ← accept .closeMapping then return []
    if !first then expect .comma
    if ← accept .key then
      let t ← peek
      let key ←
        if t = .value ∨ t = .comma ∨ t = .closeMapping then addEmpty else node .flow fuel
      let value ←
        if ← accept .value then
          let t ← peek
          if t = .comma ∨ t = .closeMapping then addEmpty else node .flow fuel
        else addEmpty
      return (key, value) :: (← flowEntries false fuel)
    else if ← accept .closeMapping then return []
    else
      let key ← node .flow fuel
      return (key, ← addEmpty) :: (← flowEntries false fuel)

end

/-! ## documents -/

/-- The directives before a document: one version, which is 1.x, and distinct short forms. -/
def directives (versioned : Bool) (handles : List (String × String)) :
    Nat → Compose (List (String × String))
  | 0 => throw .form
  | fuel + 1 => do
    match ← peek with
    | .version major =>
      if versioned ∨ major ≠ 1 then throw .form
      drop
      directives true handles fuel
    | .shorthand handle expansion =>
      if (handles.lookup handle).isSome then throw .form
      drop
      directives versioned ((handle, expansion) :: handles) fuel
    | .reserved =>
      drop
      directives versioned handles fuel
    | _ => return handles

/-- The short forms that need no declaration. -/
def usualHandles : List (String × String) := [("!", "!"), ("!!", Tag.base)]

/-- The only document, if there is one. -/
def document (fuel : Nat) : Compose (Option Ref) := do
  let root ←
    match ← peek with
    | .streamEnd => return none
    | .version _ | .shorthand _ _ | .reserved | .documentStart =>
      let handles ← directives false [] fuel
      modify fun s => { s with handles := handles ++ usualHandles }
      expect .documentStart
      match ← peek with
      | .version _ | .shorthand _ _ | .reserved | .documentStart | .documentEnd | .streamEnd =>
        addEmpty
      | _ => node .block fuel
    | _ => node .block fuel
  let rest ← dropEnds fuel
  if rest = .streamEnd then return some root else throw .form
where
  /-- The token after the signs that end the document. -/
  dropEnds : Nat → Compose Token
    | 0 => throw .form
    | fuel + 1 => do if ← accept .documentEnd then dropEnds fuel else peek

/-- The graph of the only document that tokens spell, and its root, if there is one. -/
def ofTokens (tokens : List Token) : Except Fault (Option (Graph × Ref)) := do
  let (root, s) ← (document (2 * tokens.length + 2)).run ⟨0, tokens, usualHandles, [], #[]⟩
  return root.map (s.nodes, ·)

end Graph

end Rollout.Yaml
