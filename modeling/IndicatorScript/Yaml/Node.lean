import IndicatorScript.Yaml.Problem
import IndicatorScript.Yaml.Tag

/-!
# YAML nodes

A document is a graph of nodes, since an alias stands for the node itself and not for a copy. The nodes of a graph are
numbered in the order in which they begin.
-/

namespace IndicatorScript.Yaml

inductive Node.Content where
  | scalar (text : String)
  | sequence (items : List Nat)
  | mapping (entries : List (Nat × Nat))
  deriving DecidableEq, Repr

def Node.Content.kind : Node.Content → String
  | .scalar _ => "scalar"
  | .sequence _ => "sequence"
  | .mapping _ => "mapping"

structure Node where
  tag : Tag
  mark : Mark
  content : Node.Content
  deriving DecidableEq, Repr

structure Graph where
  nodes : Array Node
  root : Nat

end IndicatorScript.Yaml
