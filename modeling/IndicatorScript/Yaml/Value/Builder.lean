import IndicatorScript.Yaml.Node
import IndicatorScript.Yaml.Value.Scalar
import IndicatorScript.Yaml.Value

/-!
# Making values of nodes

A scalar is read at once. A collection is a value before its items are: these are made afterwards, collection after
collection in the order in which they were met, so a collection may be an item of itself. Before the entries of a
mapping are made, the mappings that are merged into it are put in front of them.
-/

namespace IndicatorScript.Yaml

structure Building where
  nodes : Array Node
  /-- The values made so far, by the numbers of their nodes. -/
  values : List (Nat × Value) := []
  /-- The collections whose items are still to be made. -/
  waiting : List Nat := []
  /-- The entries of the mappings, by the numbers of their nodes. -/
  entries : List (Nat × List (Value × Value)) := []

abbrev Builder := StateT Building (Except Problem)

namespace Builder

def fail {β : Type} (setting : Option Setting) (text : String) (mark : Mark) : Builder β :=
  throw (.placed .values setting text mark)

/-- A node that is not there is an empty one. -/
def nodeAt (position : Nat) : Builder Node :=
  return ((← get).nodes[position]?).getD ⟨.null, ⟨0, 0⟩, .scalar ""⟩

def setNode (position : Nat) (change : Node → Node) : Builder Unit :=
  modify fun building => { building with nodes := building.nodes.modify position change }

def entriesOf (position : Nat) : Builder (List (Nat × Nat)) :=
  return match (← nodeAt position).content with
    | .mapping entries => entries
    | _ => []

def setEntries (position : Nat) (entries : List (Nat × Nat)) : Builder Unit :=
  setNode position fun node => { node with content := .mapping entries }

def fit {β : Type} (result : Except Misfit β) : Builder β :=
  match result with
  | .ok x => return x
  | .error misfit => throw (.unfit misfit)

/-! ## Scalars -/

/-- The text of a scalar. A mapping with the key of that meaning stands for the value of the key. -/
def textAt : (steps : Nat) → (position : Nat) → Builder String
  | 0, position => do
      fail none "expected a scalar node, but found mapping" (← nodeAt position).mark
  | steps + 1, position => do
      let node ← nodeAt position
      match node.content with
      | .scalar text => return text
      | .sequence _ => fail none "expected a scalar node, but found sequence" node.mark
      | .mapping entries =>
          match ← entries.findM? fun (key, _) => return (← nodeAt key).tag = .value with
          | some (_, value) => textAt steps value
          | none => fail none "expected a scalar node, but found mapping" node.mark

def scalarText (position : Nat) : Builder String := do textAt ((← get).nodes.size + 1) position

def timeAt (position : Nat) : Builder Value := do
  let text ← scalarText position
  match (← nodeAt position).content with
  | .scalar _ =>
      match ← fit (Scalar.time text) with
      | .inl date => return .date date
      | .inr moment => return .moment moment
  | _ => throw (.unfit .noTimeText)

/-! ## Nodes -/

def collection (position : Nat) (value : Value) : Builder Value := do
  modify fun building => { building with waiting := building.waiting ++ [position] }
  return value

def make (position : Nat) : Builder Value := do
  let node ← nodeAt position
  match node.tag with
  | .null => do
      discard (scalarText position)
      return .null
  | .boolean => return .boolean (← fit (Scalar.boolean (← scalarText position)))
  | .integer => return .integer (← fit (Scalar.integer (← scalarText position)))
  | .number => return .number (← fit (Scalar.number (← scalarText position)))
  | .octets =>
      match Scalar.octetCount (← scalarText position) with
      | .ok count => return .octets count
      | .error text => fail none text node.mark
  | .time => timeAt position
  | .text => return .text (← scalarText position)
  | .sequence | .orderedMap | .pairs => collection position (.sequence position)
  | .mapping => collection position (.mapping position)
  | .set => collection position (.set position)
  | tag => fail none ("could not determine a constructor for the tag " ++ Text.quoted tag.name) node.mark

def valueAt (position : Nat) : Builder Value := do
  match (← get).values.lookup position with
  | some value => return value
  | none => do
      let value ← make position
      modify fun building => { building with values := (position, value) :: building.values }
      return value

/-! ## Merging -/

def mappingSetting (mark : Mark) : Setting := ⟨"while constructing a mapping", mark⟩

def removeEntry (position index : Nat) : Builder Unit := do
  setEntries position ((← entriesOf position).eraseIdx index)

mutual

def mergedFrom (position index : Nat) (merged : List (Nat × Nat)) : (steps : Nat) → Builder (List (Nat × Nat))
  | 0 => return merged
  | steps + 1 => do
      match (← entriesOf position)[index]? with
      | none => return merged
      | some (key, value) =>
          match (← nodeAt key).tag with
          | .merge => do
              removeEntry position index
              let source ← nodeAt value
              match source.content with
              | .mapping _ => do
                  merge value steps
                  mergedFrom position index (merged ++ (← entriesOf value)) steps
              | .sequence items => do
                  let parts ← mergedItems position items steps
                  mergedFrom position index (merged ++ parts.reverse.flatten) steps
              | .scalar _ =>
                  fail (some (mappingSetting (← nodeAt position).mark))
                    "expected a mapping or list of mappings for merging, but found scalar" source.mark
          | .value => do
              setNode key fun node => { node with tag := .text }
              mergedFrom position (index + 1) merged steps
          | _ => mergedFrom position (index + 1) merged steps

def mergedItems (position : Nat) : List Nat → (steps : Nat) → Builder (List (List (Nat × Nat)))
  | _, 0 | [], _ => return []
  | item :: items, steps + 1 => do
      let source ← nodeAt item
      match source.content with
      | .mapping _ => do
          merge item steps
          let entries ← entriesOf item
          return entries :: (← mergedItems position items steps)
      | content =>
          fail (some (mappingSetting (← nodeAt position).mark))
            ("expected a mapping for merging, but found " ++ content.kind) source.mark

def merge (position : Nat) : (steps : Nat) → Builder Unit
  | 0 => return
  | steps + 1 => do
      let merged ← mergedFrom position 0 [] steps
      if !merged.isEmpty then setEntries position (merged ++ (← entriesOf position))

end

/-- As many steps as merging can take: each passes an entry or removes one. -/
def mergeSteps : Builder Nat := do
  let size := (← get).nodes.size + 1
  return size * size

/-! ## Collections -/

def entryValues (mark : Mark) : List (Nat × Nat) → Builder (List (Value × Value))
  | [] => return []
  | (key, value) :: rest => do
      let name ← valueAt key
      if !name.isKey then
        fail (some (mappingSetting mark)) "found unhashable key" (← nodeAt key).mark
      let value ← valueAt value
      return (name, value) :: (← entryValues mark rest)

def fillMapping (position : Nat) : Builder Unit := do
  let node ← nodeAt position
  match node.content with
  | .mapping _ => do
      merge position (← mergeSteps)
      let entries ← entryValues node.mark (← entriesOf position)
      modify fun building => { building with entries := (position, entries) :: building.entries }
  | content => fail none ("expected a mapping node, but found " ++ content.kind) node.mark

def fillSequence (position : Nat) : Builder Unit := do
  let node ← nodeAt position
  match node.content with
  | .sequence items => items.forM fun item => discard (valueAt item)
  | content => fail none ("expected a sequence node, but found " ++ content.kind) node.mark

def fillPairs (what : String) (position : Nat) : Builder Unit := do
  let node ← nodeAt position
  let refuse (text : String) (mark : Mark) : Builder Unit :=
    fail (some ⟨"while constructing " ++ what, node.mark⟩) text mark
  match node.content with
  | .sequence items =>
      items.forM fun item => do
        let pair ← nodeAt item
        match pair.content with
        | .mapping [(key, value)] => do
            discard (valueAt key)
            discard (valueAt value)
        | .mapping entries =>
            refuse ("expected a single mapping item, but found " ++ toString entries.length ++ " items") pair.mark
        | content => refuse ("expected a mapping of length 1, but found " ++ content.kind) pair.mark
  | content => refuse ("expected a sequence, but found " ++ content.kind) node.mark

def fill (position : Nat) : Builder Unit := do
  match (← nodeAt position).tag with
  | .orderedMap => fillPairs "an ordered map" position
  | .pairs => fillPairs "pairs" position
  | .mapping | .set => fillMapping position
  | _ => fillSequence position

/-- Makes the items of the collections that are waiting. Each node waits once at most. -/
def fillAll : (steps : Nat) → Builder Unit
  | 0 => return
  | steps + 1 => do
      match (← get).waiting with
      | [] => return
      | position :: rest => do
          modify fun building => { building with waiting := rest }
          fill position
          fillAll steps

def document (root : Nat) : Builder Value := do
  let value ← valueAt root
  fillAll ((← get).nodes.size + 1)
  return value

end Builder

end IndicatorScript.Yaml
