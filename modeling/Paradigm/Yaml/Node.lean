import Paradigm.Yaml.Token

/-!
# Nodes of YAML

A document is a tree of scalars, lists and maps; an alias stands for the node that bears an anchor.
`Document.ofText?` reads a text with at most one document in it.
-/

namespace Paradigm.Yaml

/-- A node with its tag. A scalar is `plain` if it stands without quotes and is no block. -/
inductive Node where
  | scalar (tag : Option String) (text : String) (plain : Bool)
  | list (tag : Option String) (items : List Node)
  | map (tag : Option String) (entries : List (Node × Node))
  | alias (number : Nat)

def Node.missing : Node := .scalar none "" true

/-- A node under the number of its anchor; of several with one number the last begun counts. -/
structure Anchored where
  number : Nat
  begun : Nat
  node : Node

/-- The root, which is missing from a text without a document, and the nodes with anchors. -/
structure Document where
  root : Node
  anchored : List Anchored

namespace Document

def find? (d : Document) (number : Nat) : Option Node :=
  ((d.anchored.filter (·.number == number)).foldl
    (fun best a =>
      match best with
      | none => some a
      | some b => if b.begun < a.begun then some a else some b)
    none).map (·.node)

def resolve? (d : Document) : Node → Option Node
  | .alias number => d.find? number
  | node => some node

end Document

/-! ## From tokens to nodes -/

/-- The tokens that are left, and the handles and anchors seen so far. -/
structure Composer where
  tokens : List Token
  handles : List (List Char × List Char) := []
  anchors : List (List Char × Nat) := []
  begun : Nat := 0
  anchored : List Anchored := []

/-- A step of reading nodes, which may find that the tokens are no document. -/
abbrev Compose := StateT Composer Option

namespace Compose

def fail {α : Type} : Compose α := fun _ => none

def guard (ok : Bool) : Compose Unit := if ok then pure () else fail

def peek : Compose Token := do return (← get).tokens.headD .streamEnd

def drop : Compose Unit := modify fun s => { s with tokens := s.tokens.drop 1 }

def resolveTag (handle suffix : List Char) : Compose String := do
  if handle.isEmpty then return String.ofList suffix
  match (← get).handles.find? (·.1 == handle) with
  | some (_, expansion) => return String.ofList (expansion ++ suffix)
  | none => fail

/-- Numbers an anchor by how many names there were before it. -/
def register (name : List Char) : Compose (Nat × Nat) := do
  let s ← get
  let number := s.anchors.length
  let others := s.anchors.filter (·.1 != name)
  set { s with anchors := (name, number) :: others, begun := s.begun + 1 }
  return (number, s.begun)

def properties : Compose (Option (List Char) × Option String) := do
  match ← peek with
  | .anchor name =>
    drop
    match ← peek with
    | .tag handle suffix => drop; return (some name, some (← resolveTag handle suffix))
    | _ => return (some name, none)
  | .tag handle suffix =>
    drop
    match ← peek with
    | .anchor name => drop; return (some name, some (← resolveTag handle suffix))
    | _ => return (none, some (← resolveTag handle suffix))
  | _ => return (none, none)

def endsBlockItem : Token → Bool
  | .blockEntry | .blockEnd => true
  | _ => false

def endsIndentlessItem : Token → Bool
  | .blockEntry | .key | .value | .blockEnd => true
  | _ => false

def endsBlockPart : Token → Bool
  | .key | .value | .blockEnd => true
  | _ => false

def endsFlowMapKey : Token → Bool
  | .value | .flowEntry | .flowMappingEnd => true
  | _ => false

def endsFlowMapValue : Token → Bool
  | .flowEntry | .flowMappingEnd => true
  | _ => false

def endsPairKey : Token → Bool
  | .value | .flowEntry | .flowSequenceEnd => true
  | _ => false

def endsPairValue : Token → Bool
  | .flowEntry | .flowSequenceEnd => true
  | _ => false

def separator (first : Bool) : Compose Unit := do
  if !first then
    match ← peek with
    | .flowEntry => drop
    | _ => fail

mutual

/-- A node. In `block` context block collections may begin; with `indentless` a list may begin
without being further in. The fuel bounds the depth and the length of collections. -/
def node : Nat → (block indentless : Bool) → Compose Node
  | 0, _, _ => fail
  | fuel + 1, block, indentless => do
    match ← peek with
    | .alias name =>
      drop
      match (← get).anchors.find? (·.1 == name) with
      | some (_, number) => return .alias number
      | none => fail
    | _ =>
      let (anchor, tag) ← properties
      match anchor with
      | none => content fuel block indentless false tag
      | some name =>
        let (number, begun) ← register name
        let n ← content fuel block indentless true tag
        modify fun s => { s with anchored := ⟨number, begun, n⟩ :: s.anchored }
        return n

/-- What follows the properties of a node; with properties it may be missing. -/
def content : Nat → (block indentless anchored : Bool) → Option String → Compose Node
  | 0, _, _, _, _ => fail
  | fuel + 1, block, indentless, anchored, tag => do
    match ← peek, block with
    | .scalar text plain, _ =>
      drop
      return .scalar (tag.filter (· != "!")) (String.ofList text) plain
    | .flowSequenceStart, _ => drop; return .list tag (← flowItems fuel true)
    | .flowMappingStart, _ => drop; return .map tag (← flowEntries fuel true)
    | .blockSequenceStart, true => drop; return .list tag (← blockItems fuel)
    | .blockMappingStart, true => drop; return .map tag (← blockEntries fuel)
    | .blockEntry, _ =>
      if indentless then return .list tag (← indentlessItems fuel)
      else if anchored || tag.isSome then return .scalar tag "" true
      else fail
    | _, _ => if anchored || tag.isSome then return .scalar tag "" true else fail

def nodeUnless : Nat → (Token → Bool) → (block indentless : Bool) → Compose Node
  | 0, _, _, _ => fail
  | fuel + 1, ends, block, indentless => do
    if ends (← peek) then return .missing else node fuel block indentless

def blockItems : Nat → Compose (List Node)
  | 0 => fail
  | fuel + 1 => do
    match ← peek with
    | .blockEntry =>
      drop
      let item ← nodeUnless fuel endsBlockItem true false
      return item :: (← blockItems fuel)
    | .blockEnd => drop; return []
    | _ => fail

def indentlessItems : Nat → Compose (List Node)
  | 0 => fail
  | fuel + 1 => do
    match ← peek with
    | .blockEntry =>
      drop
      let item ← nodeUnless fuel endsIndentlessItem true false
      return item :: (← indentlessItems fuel)
    | _ => return []

/-- The value after a key of a block map; it may be missing with its colon. -/
def blockValue : Nat → Compose Node
  | 0 => fail
  | fuel + 1 => do
    match ← peek with
    | .value => drop; nodeUnless fuel endsBlockPart true true
    | _ => return .missing

def blockEntries : Nat → Compose (List (Node × Node))
  | 0 => fail
  | fuel + 1 => do
    match ← peek with
    | .key =>
      drop
      let key ← nodeUnless fuel endsBlockPart true true
      let value ← blockValue fuel
      return (key, value) :: (← blockEntries fuel)
    | .value =>
      fail
    | .blockEnd => drop; return []
    | _ => fail

/-- A single pair inside a flow list. A key that is left out takes the next token with it. -/
def flowPair : Nat → Compose Node
  | 0 => fail
  | fuel + 1 => do
    let key ←
      if endsPairKey (← peek) then do drop; pure Node.missing
      else node fuel false false
    let value ← flowValue fuel endsPairValue
    return .map none [(key, value)]

def flowItems : Nat → (first : Bool) → Compose (List Node)
  | 0, _ => fail
  | fuel + 1, first => do
    match ← peek with
    | .flowSequenceEnd => drop; return []
    | _ =>
      separator first
      match ← peek with
      | .key =>
        drop
        let pair ← flowPair fuel
        return pair :: (← flowItems fuel false)
      | .flowSequenceEnd => drop; return []
      | _ =>
        let item ← node fuel false false
        return item :: (← flowItems fuel false)

def flowValue : Nat → (Token → Bool) → Compose Node
  | 0, _ => fail
  | fuel + 1, ends => do
    match ← peek with
    | .value => drop; nodeUnless fuel ends false false
    | _ => return .missing

def flowEntries : Nat → (first : Bool) → Compose (List (Node × Node))
  | 0, _ => fail
  | fuel + 1, first => do
    match ← peek with
    | .flowMappingEnd => drop; return []
    | _ =>
      separator first
      match ← peek with
      | .key =>
        drop
        let key ← nodeUnless fuel endsFlowMapKey false false
        let value ← flowValue fuel endsFlowMapValue
        return (key, value) :: (← flowEntries fuel false)
      | .flowMappingEnd => drop; return []
      | _ =>
        let key ← node fuel false false
        return (key, .missing) :: (← flowEntries fuel false)

end

/-! ## Documents -/

def standardHandles : List (List Char × List Char) :=
  [(['!'], ['!']), (['!', '!'], "tag:yaml.org,2002:".toList)]

/-- The directives before a document: at most one version, and each handle once. -/
def directives : Nat → (versioned : Bool) → Compose Unit
  | 0, _ => fail
  | fuel + 1, versioned => do
    match ← peek with
    | .version major minor =>
      guard (!versioned && major == 1 && (minor == 1 || minor == 2))
      drop
      directives fuel true
    | .tagDirective handle expansion =>
      guard (!((← get).handles.any (·.1 == handle)))
      drop
      modify fun s => { s with handles := s.handles ++ [(handle, expansion)] }
      directives fuel versioned
    | _ => pure ()

def endsDocument : Token → Bool
  | .version _ _ | .tagDirective _ _ | .documentStart | .documentEnd | .streamEnd => true
  | _ => false

/-- The root of the first document. -/
def document : Compose Node := do
  let fuel := 4 * (← get).tokens.length + 8
  let useStandard : Compose Unit :=
    modify fun s => { s with handles := s.handles ++ standardHandles }
  match ← peek with
  | .streamEnd => return .missing
  | .version _ _ | .tagDirective _ _ | .documentStart =>
    directives fuel false
    useStandard
    match ← peek with
    | .documentStart => drop; nodeUnless fuel endsDocument true false
    | _ => fail
  | _ =>
    useStandard
    node fuel true false

/-- Marks of the end of the document, and then the end of the text. -/
def finish : Compose Unit := do
  modify fun s => { s with tokens := s.tokens.dropWhile fun
    | .documentEnd => true
    | _ => false }
  match ← peek with
  | .streamEnd => pure ()
  | _ => fail

end Compose

/-- Reads a text; a second document in it is a fault. -/
def Document.ofText? (text : String) : Option Document := do
  let tokens ← Token.ofText? text.toList
  let compose : Compose Node := do
    let root ← Compose.document
    Compose.finish
    return root
  let (root, composer) ← compose.run { tokens }
  return ⟨root, composer.anchored⟩

end Paradigm.Yaml
