import AuthKeyspace.Yaml.Graph
import AuthKeyspace.Yaml.ScalarText

/-!
# From a graph to a value

Each node of a graph has a kind, and its content is read by it. Texts are read at once. What has
parts comes to a queue and gets its parts when its turn comes, so that a node can be part of itself,
and so that of several faults the one that is nearest to the root is told.

A mapping takes over the entries of other mappings that stand under a merge key: they come before
its own, so that its own win. This changes the graph, and what is taken over is taken as it is by
then. Keys are scalars.

When all content is known it is unfolded to a value; a node that is part of itself is not unfolded
again.

Main statement: `splitMerge?_length`, taking over removes a merge key, so that it ends.
-/

namespace AuthKeyspace.Yaml

/-- The content of a node; its parts are given by the numbers of their nodes. -/
inductive Content
  | scalar (scalar : Scalar)
  | sequence (items : List Nat)
  | pairs (pairs : List (Nat × Nat))
  | mapping (entries : Keyed Nat)
  | set (members : Keyed Nat)
deriving DecidableEq, Repr

namespace Content

/-- The content of a node with parts before its parts are known. -/
def beforeParts? : Tag → Option Content
  | .sequence => some (.sequence [])
  | .orderedMap | .pairs => some (.pairs [])
  | .mapping => some (.mapping [])
  | .set => some (.set [])
  | _ => none

/-- The content of nodes, as far as it is known. -/
abbrev Known := Array (Option Content)

/-- The content of a node, if it is known. -/
def knownAt (known : Known) (id : Nat) : Option Content := (known[id]?).join

/-- The graph as merges have left it, the content of its nodes, and the nodes whose parts are
due. -/
structure State where
  graph : Graph
  known : Known
  due : Array Nat := #[]

/-- Reading content adds to what is known. -/
abbrev Builder (α : Type) := StateT State (Except Fault) α

/-- There is no such content. -/
def reject {α : Type} : Builder α := throw .malformed

/-- The node with a number. -/
def nodeAt (id : Nat) : Builder Node := do
  match (← get).graph.node? id with
  | some n => return n
  | none => reject

/-- Put another node under a number. -/
def replace (id : Nat) (n : Node) : Builder Unit :=
  modify fun s => { s with graph := s.graph.replace id n }

/-- Keep the content of a node. -/
def store (id : Nat) (c : Content) : Builder Unit :=
  modify fun s => { s with known := s.known.setIfInBounds id (some c) }

/-! ## Texts -/

/-- The text that a scalar is read from; a mapping can give it under the sign for a value. -/
def textOf (g : Graph) : Nat → Nat → Except Fault (List Text.Point)
  | 0, _ => .error .tooDeep
  | fuel + 1, id =>
    match g.node? id with
    | some (.text _ s) => .ok s
    | some (.mapping _ entries) =>
      match entries.find? fun (k, _) => (g.node? k).map Node.tag == some .value with
      | some (_, v) => textOf g fuel v
      | none => .error .malformed
    | _ => .error .malformed

/-- The scalar of a node. A time is looked for in the node itself, which has to be a text. -/
def scalarAt (g : Graph) (id : Nat) (n : Node) : Except Fault Scalar :=
  match n.tag, n with
  | .merge, _ | .value, _ | .other _, _ => .error .malformed
  | .timestamp, .mapping .. => do
    let _ ← textOf g (g.size + 1) id
    throw .timeOfMapping
  | tag, _ => do scalarOf id tag (← textOf g (g.size + 1) id)

/-- The content of a node; what has parts has none yet. -/
def ofNode (id : Nat) : Builder Content := do
  let s ← get
  match knownAt s.known id with
  | some c => return c
  | none =>
    let n ← nodeAt id
    match beforeParts? n.tag with
    | some c =>
      store id c
      modify fun s => { s with due := s.due.push id }
      return c
    | none =>
      let c := .scalar (← scalarAt s.graph id n)
      store id c
      return c

/-! ## Merges -/

/-- The first merge among some entries: what is to be taken over, and the other entries. -/
def splitMerge? (g : Graph) : List (Nat × Nat) → Option (Nat × List (Nat × Nat))
  | [] => none
  | (k, v) :: rest =>
    if (g.node? k).map Node.tag = some .merge then some (v, rest)
    else (splitMerge? g rest).map fun (source, others) => (source, (k, v) :: others)

theorem splitMerge?_length {g : Graph} {entries others : List (Nat × Nat)} {source : Nat}
    (h : splitMerge? g entries = some (source, others)) : others.length + 1 = entries.length := by
  induction entries generalizing others with
  | nil => cases h
  | cons e rest ih =>
    obtain ⟨k, v⟩ := e
    unfold splitMerge? at h
    split at h
    · cases h
      rfl
    · cases hr : splitMerge? g rest with
      | none => simp [hr] at h
      | some p =>
        simp only [hr, Option.map_some, Option.some.injEq, Prod.mk.injEq] at h
        obtain ⟨rfl, rfl⟩ := h
        simp [ih hr]

/-- The entries of a mapping. -/
def entriesAt (id : Nat) : Builder (List (Nat × Nat)) := do
  match ← nodeAt id with
  | .mapping _ entries => return entries
  | _ => reject

/-- The sign for a value is a text when it is a key. -/
def asText (id : Nat) : Builder Unit := do
  let n ← nodeAt id
  if n.tag = .value then replace id (n.withTag .text)

/-- Take over what stands under merge keys. Each step takes away one merge key. -/
def mergeInto : Nat → Nat → Builder Unit
  | 0, _ => reject
  | fuel + 1, id => do
    let merged (source : Nat) : Builder (List (Nat × Nat)) := do
      mergeInto fuel source
      entriesAt source
    match ← nodeAt id with
    | .mapping tag entries =>
      match splitMerge? (← get).graph entries with
      | none => entries.forM fun (k, _) => asText k
      | some (source, others) =>
        replace id (.mapping tag others)
        let taken ←
          match ← nodeAt source with
          | .sequence _ items => do pure (← items.mapM merged).reverse.flatten
          | _ => merged source
        mergeInto fuel id
        replace id (.mapping tag (taken ++ (← entriesAt id)))
    | _ => reject

/-! ## Parts -/

/-- Read an entry, whose key has to be a scalar. -/
def keyed (entry : Nat × Nat) : Builder (Scalar × Nat) := do
  match ← ofNode entry.1 with
  | .scalar key =>
    let _ ← ofNode entry.2
    return (key, entry.2)
  | _ => reject

/-- Read the entries of a mapping. A later value under the same key replaces an earlier one. -/
def keyedEntries (id : Nat) : Builder (Keyed Nat) := do
  mergeInto ((← get).graph.entryCount + 1) id
  let entries ← (← entriesAt id).mapM keyed
  return entries.foldl (fun es (key, value) => es.insert key value) []

/-- Read a mapping of one entry as a pair. -/
def pairAt (id : Nat) : Builder (Nat × Nat) := do
  match ← entriesAt id with
  | [(a, b)] =>
    let _ ← ofNode a
    let _ ← ofNode b
    return (a, b)
  | _ => reject

/-- Read the parts of a node. -/
def readParts (id : Nat) : Builder Unit := do
  let n ← nodeAt id
  match n.tag, n with
  | .sequence, .sequence _ items =>
    items.forM fun item => do let _ ← ofNode item
    store id (.sequence items)
  | .orderedMap, .sequence _ items | .pairs, .sequence _ items =>
    store id (.pairs (← items.mapM pairAt))
  | .mapping, _ => store id (.mapping (← keyedEntries id))
  | .set, _ => store id (.set (← keyedEntries id))
  | _, _ => reject

/-- Read the parts of all nodes that are due, from a place of the queue on. -/
def readDue : Nat → Nat → Builder Unit
  | 0, _ => reject
  | fuel + 1, place => do
    match (← get).due[place]? with
    | none => return
    | some id =>
      readParts id
      readDue fuel (place + 1)

/-- What is known of a graph once all its content is read. -/
def ofGraph (g : Graph) : Except Fault Known := do
  let build : Builder Unit := do
    let _ ← ofNode 0
    readDue (g.size + 1) 0
  let (_, s) ← build.run { graph := g, known := Array.replicate g.size none }
  return s.known

/-! ## Values -/

/-- The value of a node, `path` being the nodes it is a part of. -/
def unfold (known : Known) : Nat → List Nat → Nat → Value
  | 0, _, _ => .scalar .null
  | fuel + 1, path, id =>
    let part := unfold known fuel (id :: path)
    match knownAt known id with
    | none => .scalar .null
    | some (.scalar s) => .scalar s
    | some (.set members) => .set (members.map (·.1))
    | some (.sequence items) =>
      if id ∈ path then .enclosingSequence else .sequence (items.map part)
    | some (.pairs ps) =>
      if id ∈ path then .enclosingSequence else .pairs (ps.map fun (a, b) => (part a, part b))
    | some (.mapping entries) =>
      if id ∈ path then .enclosingMapping else .mapping (entries.map fun (k, v) => (k, part v))

/-- The value of a node that is looked at by itself. A path has no node twice. -/
def valueAt (known : Known) (id : Nat) : Value := unfold known (known.size + 1) [] id

end Content

end AuthKeyspace.Yaml
