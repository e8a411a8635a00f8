import Stencil.Yaml.Scan
import Stencil.Yaml.Value

/-! Reading of documents: from text to tokens, from tokens to a tree, and from the tree to its
value. -/

namespace Stencil.Yaml

/-- The value that a text holds. All tokens are read before any scalar is judged. Of a text that is
only a part of the whole, a fault is told if it shows before the end of the part. -/
def load (isWhole : Bool) (text : List Char) : Except Fault Value :=
  if text.all isAllowed then do
    let tree ← Tree.ofTokens (tokens isWhole text)
    tree.value
  else .error .malformed

end Stencil.Yaml
