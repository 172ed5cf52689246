import EnergyAudit.Text.LineIndex

/-!
# Trees

The tree of a source text.

## Main definitions

* `Node` — a node with its children.
* `Node.childByField?` — a child by the name of its field.
* `Node.text` — the text of a node in its source.
-/

namespace EnergyAudit.Tree

open EnergyAudit.Text

/-- What a node is, apart from its children. -/
structure NodeInfo where
  kind : String
  /-- Whether the node is named for its role rather than written as its text. -/
  isNamed : Bool
  /-- The name of the node within its parent. -/
  field : Option String
  start : Point
  stop : Point
  /-- Whether the node stands for text outside the language. -/
  isError : Bool
  /-- Whether the node stands for something that the text lacks. -/
  isMissing : Bool
  /-- Whether there is an error in the node. -/
  hasError : Bool
deriving BEq, DecidableEq, Repr, Inhabited

/-- A tree: a node with its children in the order of the text. -/
inductive Node where
  | mk (info : NodeInfo) (children : List Node)
deriving Inhabited

namespace Node

/-- What the node is. -/
def info : Node → NodeInfo
  | mk info _ => info

/-- The children of the node. -/
def children : Node → List Node
  | mk _ children => children

/-- The kind of the node. -/
def kind (n : Node) : String := n.info.kind

/-- The first byte of the node. -/
def startByte (n : Node) : Nat := n.info.start.byte

/-- The first byte behind the node. -/
def endByte (n : Node) : Nat := n.info.stop.byte

/-- Whether the node stands for an error itself. -/
def isFault (n : Node) : Bool := n.info.isError || n.info.isMissing

/-- The first child with a field name. -/
def childByField? (n : Node) (name : String) : Option Node :=
  n.children.find? fun child => child.info.field == some name

/-- The text of a node in its source; empty where the bytes are no text. -/
def text (source : ByteArray) (n : Node) : String :=
  (String.fromUTF8? (source.extract n.startByte n.endByte)).getD ""

end Node

end EnergyAudit.Tree
