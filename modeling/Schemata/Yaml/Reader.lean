import Schemata.Yaml.Object
/-!
# Reading YAML

`Yaml.read` reads the value of a text: its tokens are put together to a document, whose nodes stand
for objects.  A text without a document is null.
-/

namespace Schemata.Yaml

/-- The objects of a text and the outermost part. -/
def readObjects (text : String) : Except Fault (Objects × Part) := do
  let (tokens, fault) := Token.scan text
  match ← Document.ofTokens? tokens fault with
  | none => return (#[], .atom .null)
  | some d => Objects.ofDocument d

/-- Reads a text. -/
def read (text : String) : Except Fault Value := do
  let (objects, whole) ← readObjects text
  return objects.value whole

end Schemata.Yaml
