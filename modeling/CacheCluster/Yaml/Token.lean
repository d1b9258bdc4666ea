import CacheCluster.Yaml.Place

/-!
# YAML tokens

The tokens of a YAML text.  The starts and ends of blocks are tokens too, although nothing but
indentation shows them.

## Main definitions

* `Style` : how a scalar is written.
* `Token` : a token.
-/

namespace CacheCluster.Yaml

/-- How a scalar is written. -/
inductive Style
  | plain
  | quoted
  | literal
  | folded
  deriving DecidableEq, Repr

/-- A token. -/
inductive Token
  | version (major minor : Nat)
  | handle (name : String) (meaning : String)
  | documentStart
  | documentEnd
  | blockSequence
  | blockMapping
  | blockEnd
  | flowSequence
  | flowSequenceEnd
  | flowMapping
  | flowMappingEnd
  | blockEntry
  | flowEntry
  | key
  | value
  | alias (name : String)
  | anchor (name : String)
  | tag (handle : String) (suffix : String)
  | scalar (style : Style) (text : String)
  deriving DecidableEq, Repr

end CacheCluster.Yaml
