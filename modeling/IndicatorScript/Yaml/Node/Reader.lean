import IndicatorScript.Yaml.Node
import IndicatorScript.Yaml.Token

/-!
# Reading nodes from tokens

The tokens of a text as the graph of its one document. Each reader takes the count of nested readers it may still
enter; a multiple of the count of tokens is enough, since no two readers begin at one token without reading it.
-/

namespace IndicatorScript.Yaml

structure Draft where
  tokens : List Token
  /-- What keeps further tokens from being read. -/
  problem : Option Problem
  /-- What the handles of tags stand for. -/
  handles : List (String × String) := []
  /-- The nodes that have a name. -/
  anchors : List (String × Nat) := []
  nodes : Array Node := #[]

abbrev Drafting := StateT Draft (Except Problem)

namespace Drafting

def fail {β : Type} (stage : Stage) (setting : Option Setting) (text : String) (mark : Mark) : Drafting β :=
  throw (.placed stage setting text mark)

def misplaced {β : Type} (setting : Option Setting) (expected found : String) (token : Token) : Drafting β :=
  fail .nodes setting ("expected " ++ expected ++ ", but " ++ found ++ " " ++ token.shown) token.start

/-- There is nothing left to read. The end of a text is a token, behind which nothing is read. -/
def exhausted : Problem := .placed .nodes none "expected '<stream end>'" ⟨0, 0⟩

def peek : Drafting Token := do
  let draft ← get
  match draft.tokens with
  | token :: _ => return token
  | [] => throw (draft.problem.getD exhausted)

def drop : Drafting Unit := modify fun draft => { draft with tokens := draft.tokens.tail }

def isNext (contents : List Token.Content) : Drafting Bool := return contents.contains (← peek).content

/-! ## Nodes -/

def add (anchor : Option String) (node : Node) : Drafting Nat := do
  let draft ← get
  match anchor with
  | none => set { draft with nodes := draft.nodes.push node }
  | some name =>
      match draft.anchors.lookup name with
      | some first =>
          let mark := (draft.nodes[first]?.map Node.mark).getD node.mark
          fail .references (some ⟨"found duplicate anchor " ++ Text.quoted name ++ "; first occurrence", mark⟩)
            "second occurrence" node.mark
      | none =>
          set { draft with
            nodes := draft.nodes.push node
            anchors := (name, draft.nodes.size) :: draft.anchors }
  return draft.nodes.size

def setContent (position : Nat) (content : Node.Content) : Drafting Unit :=
  modify fun draft => { draft with nodes := draft.nodes.modify position fun node => { node with content } }

def empty (mark : Mark) : Drafting Nat := add none ⟨.null, mark, .scalar ""⟩

structure Properties where
  anchor : Option String := none
  tag : Option (Option String × String) := none
  tagMark : Option Mark := none
  start : Option Mark := none

def readAnchor (properties : Properties) : Drafting Properties := do
  let token ← peek
  match token.content with
  | .anchor name => do
      drop
      return { properties with anchor := some name, start := some (properties.start.getD token.start) }
  | _ => return properties

def readTag (properties : Properties) : Drafting Properties := do
  let token ← peek
  match token.content with
  | .tag handle suffix => do
      drop
      return { properties with
        tag := some (handle, suffix)
        tagMark := some token.start
        start := some (properties.start.getD token.start) }
  | _ => return properties

def properties : Drafting Properties := do
  let first ← readAnchor {}
  let second ← readTag first
  if first.anchor.isNone && second.tag.isSome then readAnchor second else return second

/-- The name of the tag that a node is given. A single exclamation mark is as good as none, but for a scalar it means
that its text decides, in whatever way it is written. -/
def tagName (properties : Properties) : Drafting (Option String) := do
  match properties.tag with
  | none => return none
  | some (none, suffix) => return some suffix
  | some (some handle, suffix) =>
      match (← get).handles.lookup handle with
      | some expansion => return some (expansion ++ suffix)
      | none =>
          fail .nodes (some ⟨"while parsing a node", properties.start⟩)
            ("found undefined tag handle " ++ Text.quoted handle) (properties.tagMark.getD ⟨0, 0⟩)

def scalarTag (name : Option String) (style : Style) (text : String) : Tag :=
  match name with
  | none => if style = .plain then .ofPlain text else .text
  | some "!" => .ofPlain text
  | some name => .ofName name

def collectionTag (name : Option String) (byForm : Tag) : Tag :=
  match name with
  | none | some "!" => byForm
  | some name => .ofName name

/-! ## Collections -/

inductive Place where
  | flow
  | block
  /-- The value of a block mapping, which may be a sequence that is indented no further than its key. -/
  | blockValue
  deriving DecidableEq

def Place.name (place : Place) : String := if place = .flow then "flow" else "block"

def blockSetting (kind : String) (start : Mark) : Setting := ⟨"while parsing a block " ++ kind, start⟩

def flowSetting (kind : String) (start : Mark) : Setting := ⟨"while parsing a flow " ++ kind, start⟩

def separator (first : Bool) (kind close : String) (start : Mark) : Drafting Unit := do
  let token ← peek
  if first then return
  else if token.content = .flowEntry then drop
  else misplaced (some (flowSetting kind start)) ("',' or '" ++ close ++ "'") "got" token

mutual

def node (place : Place) : (steps : Nat) → Drafting Nat
  | 0 => throw exhausted
  | steps + 1 => do
      let first ← peek
      match first.content with
      | .alias name => do
          drop
          match (← get).anchors.lookup name with
          | some position => return position
          | none => fail .references none ("found undefined alias " ++ Text.quoted name) first.start
      | _ =>
          let properties ← properties
          let name ← tagName properties
          let token ← peek
          let start := properties.start.getD token.start
          let collect (byForm : Tag) (content : Node.Content) (read : Drafting Node.Content) : Drafting Nat := do
            let position ← add properties.anchor ⟨collectionTag name byForm, start, content⟩
            setContent position (← read)
            return position
          match token.content with
          | .scalar text style => do
              drop
              add properties.anchor ⟨scalarTag name style text, start, .scalar text⟩
          | .flowSequenceStart => collect .sequence (.sequence []) do
              drop
              return .sequence (← flowItems true token.start steps)
          | .flowMappingStart => collect .mapping (.mapping []) do
              drop
              return .mapping (← flowEntries true token.start steps)
          | content =>
              if place = .blockValue ∧ content = .blockEntry then
                collect .sequence (.sequence []) do return .sequence (← flatItems steps)
              else if place ≠ .flow ∧ content = .blockSequenceStart then
                collect .sequence (.sequence []) do
                  drop
                  return .sequence (← blockItems token.start steps)
              else if place ≠ .flow ∧ content = .blockMappingStart then
                collect .mapping (.mapping []) do
                  drop
                  return .mapping (← blockEntries token.start steps)
              else if properties.anchor.isSome ∨ properties.tag.isSome then
                add properties.anchor ⟨scalarTag name .plain "", start, .scalar ""⟩
              else
                misplaced (some ⟨"while parsing a " ++ place.name ++ " node", start⟩) "the node content"
                  "found" token

def nodeUnless (ends : List Token.Content) (place : Place) (mark : Mark) : (steps : Nat) → Drafting Nat
  | 0 => throw exhausted
  | steps + 1 => do if ← isNext ends then empty mark else node place steps

def blockItems (start : Mark) : (steps : Nat) → Drafting (List Nat)
  | 0 => throw exhausted
  | steps + 1 => do
      let token ← peek
      match token.content with
      | .blockEntry => do
          drop
          let item ← nodeUnless [.blockEntry, .blockEnd] .block token.stop steps
          return item :: (← blockItems start steps)
      | .blockEnd => do
          drop
          return []
      | _ => misplaced (some (blockSetting "collection" start)) "<block end>" "found" token

def flatItems : (steps : Nat) → Drafting (List Nat)
  | 0 => throw exhausted
  | steps + 1 => do
      let token ← peek
      if token.content = .blockEntry then
        drop
        let item ← nodeUnless [.blockEntry, .key, .value, .blockEnd] .block token.stop steps
        return item :: (← flatItems steps)
      else return []

def blockEntries (start : Mark) : (steps : Nat) → Drafting (List (Nat × Nat))
  | 0 => throw exhausted
  | steps + 1 => do
      let token ← peek
      match token.content with
      | .key => do
          drop
          let key ← nodeUnless [.key, .value, .blockEnd] .blockValue token.stop steps
          let value ← blockEntryValue steps
          return (key, value) :: (← blockEntries start steps)
      | .blockEnd => do
          drop
          return []
      | _ => misplaced (some (blockSetting "mapping" start)) "<block end>" "found" token

def blockEntryValue : (steps : Nat) → Drafting Nat
  | 0 => throw exhausted
  | steps + 1 => do
      let token ← peek
      if token.content = .value then
        drop
        nodeUnless [.key, .value, .blockEnd] .blockValue token.stop steps
      else empty token.start

/-- The items of a sequence in brackets. One of them may be a single entry of a mapping. -/
def flowItems (first : Bool) (start : Mark) : (steps : Nat) → Drafting (List Nat)
  | 0 => throw exhausted
  | steps + 1 => do
      if ← isNext [.flowSequenceEnd] then
        drop
        return []
      else
        separator first "sequence" "]" start
        let token ← peek
        match token.content with
        | .key => do
            let position ← add none ⟨.mapping, token.start, .mapping []⟩
            drop
            let key ← nodeUnless [.value, .flowEntry, .flowSequenceEnd] .flow token.stop steps
            let value ← flowEntryValue [.flowEntry, .flowSequenceEnd] steps
            setContent position (.mapping [(key, value)])
            discard peek
            return position :: (← flowItems false start steps)
        | .flowSequenceEnd => do
            drop
            return []
        | _ => do
            let item ← node .flow steps
            return item :: (← flowItems false start steps)

def flowEntries (first : Bool) (start : Mark) : (steps : Nat) → Drafting (List (Nat × Nat))
  | 0 => throw exhausted
  | steps + 1 => do
      if ← isNext [.flowMappingEnd] then
        drop
        return []
      else
        separator first "mapping" "\x7d" start
        let token ← peek
        match token.content with
        | .key => do
            drop
            let key ← nodeUnless [.value, .flowEntry, .flowMappingEnd] .flow token.stop steps
            let value ← flowEntryValue [.flowEntry, .flowMappingEnd] steps
            return (key, value) :: (← flowEntries false start steps)
        | .flowMappingEnd => do
            drop
            return []
        | _ => do
            let key ← node .flow steps
            let value ← empty (← peek).start
            return (key, value) :: (← flowEntries false start steps)

def flowEntryValue (ends : List Token.Content) : (steps : Nat) → Drafting Nat
  | 0 => throw exhausted
  | steps + 1 => do
      let token ← peek
      if token.content = .value then
        drop
        nodeUnless ends .flow token.stop steps
      else empty token.start

end

/-! ## Documents -/

def commonHandles : List (String × String) := [("!", "!"), ("!!", Tag.common)]

def readDirectives (versioned : Bool) (handles : List (String × String)) :
    (steps : Nat) → Drafting (List (String × String))
  | 0 => return handles
  | steps + 1 => do
      let token ← peek
      match token.content with
      | .directive (.version major _) => do
          if versioned then fail .nodes none "found duplicate YAML directive" token.start
          if major ≠ 1 then
            fail .nodes none "found incompatible YAML document (version 1.* is required)" token.start
          drop
          readDirectives true handles steps
      | .directive (.tagHandle handle expansion) => do
          if (handles.lookup handle).isSome then
            fail .nodes none ("duplicate tag handle " ++ Text.quoted handle) token.start
          drop
          readDirectives versioned ((handle, expansion) :: handles) steps
      | .directive .other => do
          drop
          readDirectives versioned handles steps
      | _ => return handles

def beginDocument (steps : Nat) : Drafting Unit := do
  let handles ← readDirectives false [] steps
  modify fun draft => { draft with handles := handles ++ commonHandles }
  let token ← peek
  if token.content = .documentStart then drop
  else fail .nodes none ("expected '<document start>', but found " ++ token.shown) token.start

def passEnds : (steps : Nat) → Drafting Unit
  | 0 => return
  | steps + 1 => do
      if ← isNext [.documentEnd] then
        drop
        passEnds steps

def isDirective (content : Token.Content) : Bool :=
  match content with
  | .directive _ => true
  | _ => false

def documentNode (steps : Nat) : Drafting Nat := do
  let token ← peek
  if isDirective token.content ∨ [.documentStart, .documentEnd, .textEnd].contains token.content then
    empty token.start
  else node .block steps

def firstDocument (steps : Nat) : Drafting (Option Nat) := do
  let token ← peek
  if token.content = .textEnd then return none
  else if isDirective token.content ∨ token.content = .documentStart then
    beginDocument steps
    return some (← documentNode steps)
  else
    modify fun draft => { draft with handles := commonHandles }
    return some (← node .block steps)

def noOther (root : Nat) (steps : Nat) : Drafting Unit := do
  passEnds steps
  let token ← peek
  if token.content ≠ .textEnd then
    beginDocument steps
    let mark := ((← get).nodes[root]?).map Node.mark
    fail .references (some ⟨"expected a single document in the stream", mark⟩) "but found another document"
      token.start

def graph (steps : Nat) : Drafting (Option Graph) := do
  drop
  match ← firstDocument steps with
  | none => return none
  | some root =>
      noOther root steps
      return some ⟨(← get).nodes, root⟩

end Drafting

def Graph.ofTokens (tokens : List Token) (problem : Option Problem) : Except Problem (Option Graph) :=
  ((Drafting.graph (4 * tokens.length + 4)).run { tokens, problem }).map (·.1)

end IndicatorScript.Yaml
