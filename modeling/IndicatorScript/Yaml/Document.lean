import IndicatorScript.Yaml.Node.Reader
import IndicatorScript.Yaml.Token.Lexer
import IndicatorScript.Yaml.Value.Builder

/-!
# YAML documents

The value of the one document that a text holds, and the entries of the mappings in it.
-/

namespace IndicatorScript.Yaml

structure Document where
  root : Value
  /-- The collections with nothing in them. -/
  isEmpty : Value → Bool
  /-- The entries of a mapping, in the order in which they are written; none for any other value. -/
  entries? : Value → Option (List (Value × Value))

def Document.nothing : Document := ⟨.null, fun _ => true, fun _ => none⟩

def isAcceptable (c : Char) : Bool :=
  c = '\t' || c = '\n' || c = '\r' || c = '\x85' || (' ' ≤ c && c ≤ '~') ||
    (0xa0 ≤ c.toNat && c.toNat ≠ 0xfffe && c.toNat ≠ 0xffff)

def checkCharacters (text : List Char) : Except Problem Unit :=
  match text.dropWhile isAcceptable with
  | [] => .ok ()
  | c :: rest => .error (.unacceptable c (text.length - rest.length - 1))

def Document.ofBuilding (root : Value) (building : Building) : Document where
  root
  isEmpty
    | .sequence position =>
        match building.nodes[position]?.map Node.content with
        | some (.sequence items) => items.isEmpty
        | _ => true
    | .mapping position | .set position => ((building.entries.lookup position).getD []).isEmpty
    | .octets count => count = 0
    | _ => false
  entries?
    | .mapping position => some ((building.entries.lookup position).getD [])
    | _ => none

def document (text : String) : Except Problem Document := do
  checkCharacters text.toList
  let (tokens, problem) := tokens text.toList
  match ← Graph.ofTokens tokens.toList problem with
  | none => .ok .nothing
  | some graph =>
      let (root, building) ← (Builder.document graph.root).run { nodes := graph.nodes }
      .ok (.ofBuilding root building)

end IndicatorScript.Yaml
