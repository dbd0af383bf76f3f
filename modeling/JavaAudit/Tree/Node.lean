import JavaAudit.Tree.Kind
import JavaAudit.Tree.Role

/-! Concrete syntax trees.

A node carries the text it covers, so an analysis of a subtree needs no access to the file. -/

set_option autoImplicit false

namespace JavaAudit

/-- What a node is, apart from its children. Byte offsets are half-open and lines start at one. -/
structure Label where
  kind : Kind
  /-- Named nodes are grammar rules and comments; the others are bare tokens. -/
  named : Bool
  /-- The token was supplied by error recovery and covers no text. -/
  missing : Bool
  role : Option Role
  start : Nat
  stop : Nat
  line : Nat
  endLine : Nat
  text : String
  deriving DecidableEq, Repr

inductive Node where
  | node (label : Label) (children : List Node)
  deriving Repr

namespace Node

def label : Node → Label
  | .node label _ => label

def children : Node → List Node
  | .node _ children => children

def kind (node : Node) : Kind :=
  node.label.kind

def named (node : Node) : Bool :=
  node.label.named

def role (node : Node) : Option Role :=
  node.label.role

def start (node : Node) : Nat :=
  node.label.start

def stop (node : Node) : Nat :=
  node.label.stop

def line (node : Node) : Nat :=
  node.label.line

def endLine (node : Node) : Nat :=
  node.label.endLine

def text (node : Node) : String :=
  node.label.text

/-- Named children other than comments: the parts of a construct. -/
def isPart (node : Node) : Bool :=
  node.named && !node.kind.isComment

def child? (node : Node) (role : Role) : Option Node :=
  node.children.find? (·.role == some role)

/-- Position and kind identify a node within its tree. -/
def sameAs (left right : Node) : Bool :=
  left.start == right.start && left.stop == right.stop && left.kind == right.kind

def isWithin (node container : Node) : Bool :=
  container.start ≤ node.start && node.stop ≤ container.stop

def isRecovered (node : Node) : Bool :=
  node.kind == .error || node.label.missing

mutual

/-- Did error recovery touch this subtree? -/
def hasError : Node → Bool
  | .node label children => isRecovered (.node label children) || anyError children

def anyError : List Node → Bool
  | [] => false
  | child :: rest => child.hasError || anyError rest

end

end Node

def textOf (node : Option Node) : String :=
  (node.map Node.text).getD ""

end JavaAudit
