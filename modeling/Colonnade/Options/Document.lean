import Colonnade.Failure
import Colonnade.Options
import Colonnade.Yaml.Node

/-!
# Options in a file

Options may be written in a document of YAML, as a mapping of the names of their fields. What
the values of a field may be is said for JSON already, so a node is seen as a JSON value first.

* Any scalar is a text, whatever it looks like.
* In place of a field that need not be set, a plain scalar may stand for null.
* In place of the types to skip, a plain scalar without characters is an empty sequence.
* A document without anything in it sets nothing.
-/

namespace Colonnade

open Yaml (Node)

namespace Options

/-- A node as an item or as a value that is not null; what is inside of a collection inside
does not matter, as no field has such values. -/
def textOrOther : Node → Json
  | .scalar text _ => .string text
  | .sequence _ => .array []
  | .mapping _ => .object []

/-- A node as a value. -/
def valueOf : Node → Json
  | .sequence items => .array (items.map textOrOther)
  | other => textOrOther other

/-- **A node in the place of a field.** -/
def fieldValue (node : Node) : Field → Json
  | .skipTypes => if node.isEmpty then .array [] else valueOf node
  | _ => if node.isNull then .null else valueOf node

/-- An entry of a document as a member of an object; a name has to be a scalar. -/
def member : Node × Node → Except String (String × Json)
  | (.scalar key _, value) => .ok (key, ((field? key).map (fieldValue value)).getD .null)
  | _ => .error "the name of a field is no text"

/-- **Reading options** from a document. -/
def ofNode (node : Node) : Except String Options :=
  match node with
  | .mapping entries => do
    let members ← entries.mapM member
    (readMembers {} [] members).mapError ReadError.message
  | node => if node.isEmpty then .ok {} else .error "options are a mapping"

/-- **The options in a file**, given its bytes. -/
def ofBytes (bytes : List UInt8) : Except Failure Options :=
  match Node.ofBytes bytes >>= ofNode with
  | .ok o => .ok o
  | .error reason => .error ⟨["Parsing parser options YAML"], .document reason⟩

end Options

end Colonnade
