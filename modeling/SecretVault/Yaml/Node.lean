import SecretVault.Yaml.Lexer

/-!
Documents as trees. A missing scalar is an empty plain one, and a text without a document is one
too. An alias stands for a node by the number of its anchor; the last node with that number is
meant, wherever it stands.

Source pin: `libyaml` 0.2.5: its parser; aliases as `serde_yaml` 0.9 resolves them.
-/
namespace SecretVault.Yaml
open SecretVault.Text

inductive Node where
  | scalar (tag : Option Utf8.Bytes) (text : String) (plain : Bool)
  | sequence (items : List Node)
  | mapping (entries : List (Node × Node))
  | alias (anchor : Nat)
  | anchored (anchor : Nat) (node : Node)

namespace Node

/-- A scalar that is not there. -/
def missing : Node := .scalar none "" true

mutual

/-- The anchored nodes, in the order in which they begin. -/
def anchors : Node → List (Nat × Node)
  | .anchored anchor node => (anchor, node) :: node.anchors
  | .sequence items => itemAnchors items
  | .mapping entries => entryAnchors entries
  | _ => []

def itemAnchors : List Node → List (Nat × Node)
  | [] => []
  | item :: rest => item.anchors ++ itemAnchors rest

def entryAnchors : List (Node × Node) → List (Nat × Node)
  | [] => []
  | (key, value) :: rest => key.anchors ++ value.anchors ++ entryAnchors rest

end

/-- The node without its anchor, or the one that an alias stands for. -/
def resolve (anchors : List (Nat × Node)) : Node → Node
  | .alias anchor => ((anchors.filter (·.1 == anchor)).getLast?.map (·.2)).getD missing
  | .anchored _ node => node
  | node => node

end Node

/-- Handles of tags with what they stand for. -/
abbrev TagHandles := List (String × Utf8.Bytes)

def standardHandles : TagHandles :=
  [("!", Utf8.encode "!"), ("!!", Utf8.encode "tag:yaml.org,2002:")]

/-- The whole tag; none if nothing defines its handle. -/
def TagName.resolve? (handles : TagHandles) (name : TagName) : Option Utf8.Bytes :=
  match name.handle with
  | none => some name.suffix
  | some handle =>
    ((handles ++ standardHandles).find? (·.1 == handle)).map (·.2 ++ name.suffix)

/-- The tokens still to be read, and the anchors met, each with its number. -/
structure Unread where
  tokens : List Token
  anchors : List (String × Nat)

abbrev NodeReader := StateT Unread Option

namespace NodeReader

def peek : NodeReader (Option Token) := return (← get).tokens.head?

def skip : NodeReader Unit := modify fun s => { s with tokens := s.tokens.tail }

/-- Passes over a token, which must come next. -/
def expect (token : Token) : NodeReader Unit := do
  if (← peek) = some token then skip else failure

/-- Passes over a token if it comes next; whether it did. -/
def takes (token : Token) : NodeReader Bool := do
  if (← peek) = some token then
    skip
    return true
  else return false

/-- Whether one of the given tokens comes next. -/
def nextIn (tokens : List Token) : NodeReader Bool := return (← peek).any (tokens.contains ·)

/-- Gives a name the number of names before it, whether it is new or not. -/
def define (name : String) : NodeReader Nat := do
  let s ← get
  let number := s.anchors.length
  set { s with anchors := (name, number) :: s.anchors.filter (·.1 != name) }
  return number

/-- The number of an anchor that has been met. -/
def lookup (name : String) : NodeReader Nat := do
  match (← get).anchors.find? (·.1 == name) with
  | some (_, number) => return number
  | none => failure

def readAnchor : NodeReader (Option Nat) := do
  match ← peek with
  | some (.anchor name) =>
    skip
    return some (← define name)
  | _ => return none

def readTag (handles : TagHandles) : NodeReader (Option Utf8.Bytes) := do
  match ← peek with
  | some (.tag name) =>
    skip
    match name.resolve? handles with
    | some tag => return some tag
    | none => failure
  | _ => return none

/-- Reads an anchor and a tag, in either order, where any are given. -/
def readProperties (handles : TagHandles) : NodeReader (Option Nat × Option Utf8.Bytes) := do
  match ← readAnchor with
  | some anchor => return (some anchor, ← readTag handles)
  | none =>
    let tag ← readTag handles
    return (← readAnchor, tag)

end NodeReader

def withAnchor (anchor : Option Nat) (node : Node) : Node :=
  match anchor with
  | some anchor => .anchored anchor node
  | none => node

open NodeReader

mutual

/-- Reads a node. Block collections may be refused, and so may be a sequence that is indented no
further than the mapping around it. `fuel` bounds the number of tokens read. -/
def readNode (handles : TagHandles) (fuel : Nat) (block indentless : Bool) : NodeReader Node :=
  match fuel with
  | 0 => failure
  | fuel + 1 => do
    if let some (.alias name) ← peek then
      skip
      return .alias (← lookup name)
    let (anchor, tag) ← readProperties handles
    match ← peek with
    | some (.scalar text plain) =>
      skip
      return withAnchor anchor (.scalar tag text plain)
    | some .flowSequence =>
      skip
      return withAnchor anchor (.sequence (← readFlowItems handles fuel true))
    | some .flowMapping =>
      skip
      return withAnchor anchor (.mapping (← readFlowEntries handles fuel true))
    | token =>
      if indentless && token == some .blockEntry then
        return withAnchor anchor (.sequence (← readIndentlessItems handles fuel))
      else if block && token == some .blockSequence then
        skip
        return withAnchor anchor (.sequence (← readBlockItems handles fuel))
      else if block && token == some .blockMapping then
        skip
        return withAnchor anchor (.mapping (← readBlockEntries handles fuel))
      else if anchor.isSome || tag.isSome then
        return withAnchor anchor (.scalar tag "" true)
      else failure

/-- Reads a node, unless one of the given tokens shows that there is none. -/
def readNodeBefore (handles : TagHandles) (fuel : Nat) (block indentless : Bool)
    (ends : List Token) : NodeReader Node :=
  match fuel with
  | 0 => failure
  | fuel + 1 => do
    if ← nextIn ends then return .missing else readNode handles fuel block indentless

def readBlockItems (handles : TagHandles) (fuel : Nat) : NodeReader (List Node) :=
  match fuel with
  | 0 => failure
  | fuel + 1 => do
    if ← takes .blockEnd then return []
    expect .blockEntry
    let item ← readNodeBefore handles fuel true false [.blockEntry, .blockEnd]
    return item :: (← readBlockItems handles fuel)

def readIndentlessItems (handles : TagHandles) (fuel : Nat) : NodeReader (List Node) :=
  match fuel with
  | 0 => failure
  | fuel + 1 => do
    if ← takes .blockEntry then
      let item ← readNodeBefore handles fuel true false [.blockEntry, .key, .value, .blockEnd]
      return item :: (← readIndentlessItems handles fuel)
    else return []

def readBlockEntries (handles : TagHandles) (fuel : Nat) : NodeReader (List (Node × Node)) :=
  match fuel with
  | 0 => failure
  | fuel + 1 => do
    if ← takes .blockEnd then return []
    expect .key
    let key ← readNodeBefore handles fuel true true [.key, .value, .blockEnd]
    let value ←
      if ← takes .value then readNodeBefore handles fuel true true [.key, .value, .blockEnd]
      else pure .missing
    return (key, value) :: (← readBlockEntries handles fuel)

/-- An entry of a flow sequence that is a key with a value is a mapping of its own. Where the key
is missing, the token after its mark is passed over. -/
def readFlowItems (handles : TagHandles) (fuel : Nat) (first : Bool) : NodeReader (List Node) :=
  match fuel with
  | 0 => failure
  | fuel + 1 => do
    if ← takes .flowSequenceEnd then return []
    if !first then expect .flowEntry
    if ← takes .flowSequenceEnd then return []
    if ← takes .key then
      let key ←
        if ← nextIn [.value, .flowEntry, .flowSequenceEnd] then
          skip
          pure .missing
        else readNode handles fuel false false
      let value ←
        if ← takes .value then
          readNodeBefore handles fuel false false [.flowEntry, .flowSequenceEnd]
        else pure .missing
      return .mapping [(key, value)] :: (← readFlowItems handles fuel false)
    else
      let item ← readNode handles fuel false false
      return item :: (← readFlowItems handles fuel false)

def readFlowEntries (handles : TagHandles) (fuel : Nat) (first : Bool) :
    NodeReader (List (Node × Node)) :=
  match fuel with
  | 0 => failure
  | fuel + 1 => do
    if ← takes .flowMappingEnd then return []
    if !first then expect .flowEntry
    if ← takes .flowMappingEnd then return []
    if ← takes .key then
      let key ← readNodeBefore handles fuel false false [.value, .flowEntry, .flowMappingEnd]
      let value ←
        if ← takes .value then
          readNodeBefore handles fuel false false [.flowEntry, .flowMappingEnd]
        else pure .missing
      return (key, value) :: (← readFlowEntries handles fuel false)
    else
      let key ← readNode handles fuel false false
      return (key, .missing) :: (← readFlowEntries handles fuel false)

end

/-- Reads the directives in front of a document: one version at most, 1.1 or 1.2, and each handle
of tags once. -/
def readDirectives? (versioned : Bool) (handles : TagHandles) :
    List Token → Option (TagHandles × List Token)
  | .version major minor :: rest =>
    if versioned || major != 1 || (minor != 1 && minor != 2) then none
    else readDirectives? true handles rest
  | .tagDirective handle meaning :: rest =>
    if handles.any (·.1 == handle) then none
    else readDirectives? versioned ((handle, meaning) :: handles) rest
  | tokens => some (handles, tokens)

/-- Whether a token ends a document that has no content. -/
def Token.endsDocument : Token → Bool
  | .version .. | .tagDirective .. | .documentStart | .documentEnd => true
  | _ => false

/-- The only document of a text. Without directives it needs no start marker. -/
def document? (text : List Char) : Option Node := do
  let tokens ← tokens? text
  let (handles, rest) ← readDirectives? false [] tokens
  let marked := rest.head? == some .documentStart
  if !marked && rest.length != tokens.length then none
  let content := if marked then rest.drop 1 else rest
  let (node, unread) ←
    if content.head?.all (fun token => marked && token.endsDocument) then
      some (Node.missing, (⟨content, []⟩ : Unread))
    else (readNode handles (3 * content.length + 4) true false).run ⟨content, []⟩
  if unread.tokens.all (· == .documentEnd) then some node else none

end SecretVault.Yaml
