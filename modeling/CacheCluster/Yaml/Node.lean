import CacheCluster.Yaml.Token

/-!
# YAML documents

A document is a tree of nodes.  A node with an anchor may be named again by an alias, which stands
for it.

## Main definitions

* `Node` : a scalar, a sequence, a mapping, or an alias.
* `Node.size` : the number of marks that a node is written with.
* `Document` : a root, and the nodes that aliases name.
-/

namespace CacheCluster.Yaml

/-- A node of a document; tags are kept where they can matter. -/
inductive Node
  | scalar (style : Style) (tag? : Option String) (text : String)
  | sequence (items : List Node)
  | mapping (entries : List (Node × Node))
  | alias (id : Nat)

/-- A document with its anchored nodes. -/
structure Document where
  root : Node
  anchored : List (Nat × Node)

mutual

/-- The number of scalars and aliases in a node, and of the two ends of each of its collections. -/
def Node.size : Node → Nat
  | .scalar .. => 1
  | .alias _ => 1
  | .sequence items => sizeOfItems items + 2
  | .mapping entries => sizeOfEntries entries + 2

/-- The sizes of the items of a sequence together. -/
def sizeOfItems : List Node → Nat
  | [] => 0
  | item :: rest => item.size + sizeOfItems rest

/-- The sizes of the keys and the values of a mapping together. -/
def sizeOfEntries : List (Node × Node) → Nat
  | [] => 0
  | (key, value) :: rest => key.size + value.size + sizeOfEntries rest

end

/-- The scalar that stands where nothing is written. -/
def Node.empty : Node := .scalar .plain none ""

end CacheCluster.Yaml
