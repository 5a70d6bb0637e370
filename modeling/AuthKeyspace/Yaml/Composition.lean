import AuthKeyspace.Yaml.Graph
import AuthKeyspace.Yaml.Layout

/-!
# From tokens to a graph

The tokens of a document are taken one by one, and each node is put into the graph where it begins.
A name is given once; a collection has its name before its parts are read, a text once it is read.
Collections stand in one another only so deep. A stream of tokens holds one document or none.

How deep that is has to be settled somehow: it is the stack that gives out, and how much of it is
left depends on who asks for a document. `maxDepth` is what a start of the program leaves, as far as
it was measured. Nothing that is proved about loading rests on it, since loading takes any reader of
documents.
-/

namespace AuthKeyspace.Yaml.Composition

/-- The tokens that are left, how many characters they are made of at most, the nodes so far with
their names, the meaning of tag handles, and how many collections are open. -/
structure Source where
  layout : Layout
  size : Nat
  depth : Nat := 0
  graph : Graph := {}
  anchors : List (String × Nat) := []
  handles : List (String × String) := []

/-- Reading a part of a document takes tokens away and adds nodes. -/
abbrev Reader (α : Type) := StateT Source (Except Fault) α

/-- There is no way on. -/
def reject {α : Type} : Reader α := throw .malformed

/-- The next token, which stays. -/
def peek? : Reader (Option Token) := do
  let s ← get
  let layout ← s.layout.ready (s.size + 2)
  set { s with layout }
  return layout.peek?

/-- Take the next token away. -/
def pop : Reader Unit := modify fun s => { s with layout := s.layout.take }

/-- Take the next token away if it is this one. -/
def popIf (t : Token) : Reader Bool := do
  if (← peek?) = some t then
    pop
    return true
  else return false

/-- The next token has to be this one. -/
def expect (t : Token) : Reader Unit := do
  if ← popIf t then return else reject

/-- Is the next token one of these? -/
def isNext (ts : List Token) : Reader Bool := do
  match ← peek? with
  | some t => return ts.contains t
  | none => return false

/-! ## Properties -/

/-- An anchor and a tag. -/
structure Properties where
  anchor? : Option String := none
  tag? : Option Token := none

/-- Take away the tag, if there is one. -/
def popTag : Reader (Option Token) := do
  match ← peek? with
  | some (.tag handle? suffix) =>
    pop
    return some (.tag handle? suffix)
  | _ => return none

/-- Take away the anchor, if there is one. -/
def popAnchor : Reader (Option String) := do
  match ← peek? with
  | some (.anchor name) =>
    pop
    return some name
  | _ => return none

/-- Take away an anchor and a tag, in either order. -/
def popProperties : Reader Properties := do
  match ← popAnchor with
  | some name => return ⟨some name, ← popTag⟩
  | none =>
    match ← popTag with
    | some tag => return ⟨← popAnchor, some tag⟩
    | none => return {}

/-- The full name of a tag. -/
def fullTag : Token → Reader String
  | .tag none suffix => return suffix
  | .tag (some handle) suffix => do
    match (← get).handles.lookup handle with
    | some expansion => return expansion ++ suffix
    | none => reject
  | _ => reject

/-- The kind that a tag asks for; an exclamation mark alone asks for the one of the form. -/
def kind (tag? : Option String) (ofForm : Tag) : Tag :=
  match tag? with
  | none | some "!" => ofForm
  | some name => .ofName name

/-- The kind of a text: only a plain one has a form, unless a tag is there. -/
def textKind (tag? : Option String) (text : List Text.Point) (plain : Bool) : Tag :=
  kind tag? (if plain || tag?.isSome then .ofForm text else .text)

/-- A name can be given only once. -/
def refuseKnown (anchor? : Option String) : Reader Unit := do
  match anchor? with
  | none => return
  | some name => if ((← get).anchors.lookup name).isSome then reject else return

/-- How many collections stand in one another at most, when a start of the program asks. -/
def maxDepth : Nat := 490

/-- Read what stands in a collection. -/
def inCollection {α : Type} (parts : Reader α) : Reader α := do
  if maxDepth ≤ (← get).depth then throw .tooDeep
  modify fun s => { s with depth := s.depth + 1 }
  let a ← parts
  modify fun s => { s with depth := s.depth - 1 }
  return a

/-! ## Nodes -/

/-- Put a node into the graph and give it its name, if it has one. -/
def put (anchor? : Option String) (n : Node) : Reader Nat :=
  modifyGet fun s =>
    let id := s.graph.size
    let named := match anchor? with
      | some name => (name, id) :: s.anchors
      | none => s.anchors
    (id, { s with graph := s.graph.add n, anchors := named })

/-- Put another node under a number. -/
def replace (id : Nat) (n : Node) : Reader Nat := do
  modify fun s => { s with graph := s.graph.replace id n }
  return id

/-- Put a node that is left out into the graph. -/
def putEmpty : Reader Nat := put none .empty

/-- A node can be left out behind a tag or an anchor. -/
def emptyOr (anchor? tag? : Option String) : Reader Nat := do
  if anchor?.isSome || tag?.isSome then put anchor? (.text (textKind tag? [] true) []) else reject

/-- Where a node stands: between brackets, or in lines, where an item of a mapping can be a sequence
whose dashes are not indented. -/
inductive Context
  | flow
  | block
  | blockItem
deriving DecidableEq, Repr

mutual
/-- Read a node. -/
def node : Nat → Context → Reader Nat
  | 0, _ => reject
  | fuel + 1, context => do
    if let some (.reference name) ← peek? then
      pop
      match (← get).anchors.lookup name with
      | some id => return id
      | none => reject
    -- A reference stands for a node that is known already; every other node has its own properties.
    let p ← popProperties
    let tag? ← p.tag?.mapM fullTag
    let next? ← peek?
    refuseKnown p.anchor?
    match next? with
    | some .dash =>
      -- Items at the column of the keys make a sequence only where a key or a value is due.
      if context = .blockItem then
        let id ← put p.anchor? (.sequence (kind tag? .sequence) [])
        replace id (.sequence (kind tag? .sequence) (← inCollection (looseItems fuel)))
      else emptyOr p.anchor? tag?
    | some (.text s plain) =>
      pop
      put p.anchor? (.text (textKind tag? s plain) s)
    | some .bracketOpen =>
      pop
      let id ← put p.anchor? (.sequence (kind tag? .sequence) [])
      replace id (.sequence (kind tag? .sequence) (← inCollection (flowItems fuel true)))
    | some .braceOpen =>
      pop
      let id ← put p.anchor? (.mapping (kind tag? .mapping) [])
      replace id (.mapping (kind tag? .mapping) (← inCollection (flowEntries fuel true)))
    | some .blockSequence =>
      if context = .flow then emptyOr p.anchor? tag?
      else
        pop
        let id ← put p.anchor? (.sequence (kind tag? .sequence) [])
        replace id (.sequence (kind tag? .sequence) (← inCollection (blockItems fuel)))
    | some .blockMapping =>
      if context = .flow then emptyOr p.anchor? tag?
      else
        pop
        let id ← put p.anchor? (.mapping (kind tag? .mapping) [])
        replace id (.mapping (kind tag? .mapping) (← inCollection (blockEntries fuel)))
    | _ => emptyOr p.anchor? tag?

/-- Read a node, or nothing before one of the given tokens. -/
def nodeBefore : Nat → Context → List Token → Reader Nat
  | 0, _, _ => reject
  | fuel + 1, context, ends => do
    if ← isNext ends then putEmpty else node fuel context

/-- Read the items of an indented sequence. -/
def blockItems : Nat → Reader (List Nat)
  | 0 => reject
  | fuel + 1 => do
    if ← popIf .dash then
      let item ← nodeBefore fuel .block [.dash, .blockEnd]
      return item :: (← blockItems fuel)
    else
      expect .blockEnd
      return []

/-- Read the items of a sequence that is not indented. -/
def looseItems : Nat → Reader (List Nat)
  | 0 => reject
  | fuel + 1 => do
    if ← popIf .dash then
      let item ← nodeBefore fuel .block [.dash, .keyMark, .valueMark, .blockEnd]
      return item :: (← looseItems fuel)
    else return []

/-- Read the entries of an indented mapping. -/
def blockEntries : Nat → Reader (List (Nat × Nat))
  | 0 => reject
  | fuel + 1 => do
    let ends := [Token.keyMark, .valueMark, .blockEnd]
    if ← popIf .keyMark then
      let key ← nodeBefore fuel .blockItem ends
      let value ← if ← popIf .valueMark then nodeBefore fuel .blockItem ends else putEmpty
      return (key, value) :: (← blockEntries fuel)
    else
      expect .blockEnd
      return []

/-- Read the items of a sequence in brackets; an item can be a mapping of one entry. -/
def flowItems : Nat → Bool → Reader (List Nat)
  | 0, _ => reject
  | fuel + 1, isFirst => do
    if ← popIf .bracketClose then return []
    if !isFirst then expect .comma
    if ← popIf .bracketClose then return []
    let item ←
      if ← popIf .keyMark then
        let id ← put none (.mapping .mapping [])
        let entry ← inCollection do
          let key ← nodeBefore fuel .flow [.valueMark, .comma, .bracketClose]
          if ← popIf .valueMark then
            pure (key, ← nodeBefore fuel .flow [.comma, .bracketClose])
          else pure (key, ← putEmpty)
        replace id (.mapping .mapping [entry])
      else node fuel .flow
    return item :: (← flowItems fuel false)

/-- Read the entries of a mapping in braces; a key can stand alone. -/
def flowEntries : Nat → Bool → Reader (List (Nat × Nat))
  | 0, _ => reject
  | fuel + 1, isFirst => do
    if ← popIf .braceClose then return []
    if !isFirst then expect .comma
    if ← popIf .braceClose then return []
    let entry ←
      if ← popIf .keyMark then
        let key ← nodeBefore fuel .flow [.valueMark, .comma, .braceClose]
        let value ←
          if ← popIf .valueMark then nodeBefore fuel .flow [.comma, .braceClose] else putEmpty
        pure (key, value)
      else
        let key ← node fuel .flow
        pure (key, ← putEmpty)
    return entry :: (← flowEntries fuel false)
end

/-! ## Documents -/

/-- The handles that every document has. -/
def standardHandles : List (String × String) := [("!", "!"), ("!!", Tag.family)]

/-- What the directives of a document have said so far. -/
structure Prologue where
  hasVersion : Bool := false
  handles : List (String × String) := []

/-- Take note of a directive. There is one version at most, its first number is one, and no handle
is defined twice. -/
def Prologue.add (p : Prologue) : Directive → Except Fault Prologue
  | .version major _ =>
    if p.hasVersion || major != 1 then .error .malformed else .ok { p with hasVersion := true }
  | .tagHandle handle expansion =>
    if (p.handles.lookup handle).isSome then .error .malformed
    else .ok { p with handles := (handle, expansion) :: p.handles }
  | .unknown _ => .ok p

/-- Take away the directives. -/
def popDirectives : Nat → Prologue → Reader Prologue
  | 0, _ => reject
  | fuel + 1, p => do
    match ← peek? with
    | some (.directive d) =>
      pop
      popDirectives fuel (← p.add d)
    | _ => return p

/-- Take away what marks that a document ends. -/
def popEnds : Nat → Reader Unit
  | 0 => reject
  | fuel + 1 => do if ← popIf .documentEnd then popEnds fuel

/-- The beginning of a document that is marked: directives and three hyphens. -/
def beginning (fuel : Nat) : Reader Unit := do
  let p ← popDirectives fuel {}
  expect .documentStart
  modify fun s => { s with handles := p.handles ++ standardHandles }

/-- The content of a document, which can be empty. -/
def content (fuel : Nat) : Reader Nat := do
  match ← peek? with
  | none | some .documentStart | some .documentEnd | some (.directive _) => putEmpty
  | some _ => node fuel .block

/-- Nothing may follow a document. The beginning of another one is read before it is refused. -/
def ending (fuel : Nat) : Reader Unit := do
  popEnds fuel
  match ← peek? with
  | none => return
  | some _ =>
    beginning fuel
    reject

/-- Read all documents, of which there is one at most. -/
def stream (fuel : Nat) : Reader Unit := do
  match ← peek? with
  | none => return
  | some .documentStart | some (.directive _) =>
    beginning fuel
    let _ ← content fuel
    ending fuel
  | some _ =>
    modify fun s => { s with handles := standardHandles }
    let _ ← node fuel .block
    ending fuel

/-- How many steps reading takes at most: a character makes no more than three tokens, and a token
takes no more than four steps. -/
def fuelFor (cs : List Char) : Nat := 16 * cs.length + 16

/-- The graph of the document that some characters hold; they can break off with a fault. -/
def graphOf (cs : List Char) (cut? : Option Fault) : Except Fault Graph := do
  let (_, s) ← (stream (fuelFor cs)).run { layout := .ofChars cs cut?, size := cs.length }
  return s.graph

end AuthKeyspace.Yaml.Composition
