import HouseStyle.Text.Position
import HouseStyle.Tree.Walk

/-!
Concrete trees of source text. A node has a kind, the bytes it covers and the role it plays in its parent;
a token of punctuation or a keyword is a node without a name, a comment is an extra node. A site is a node
together with what surrounds it.
-/

set_option autoImplicit false
namespace HouseStyle

structure NodeInfo where
  id : Nat
  kind : String
  role : Option String
  named : Bool
  extra : Bool
  start : Nat
  stop : Nat
  deriving DecidableEq, Repr

inductive Node where
  | mk (info : NodeInfo) (children : List Node)
  deriving Repr

namespace Node

def info : Node → NodeInfo
  | mk info _ => info

def children : Node → List Node
  | mk _ children => children

def id (n : Node) : Nat := n.info.id

def kind (n : Node) : String := n.info.kind

def start (n : Node) : Nat := n.info.start

/-- Named and no comment: the nodes that count as parts of their parent. -/
def isPart (n : Node) : Bool := n.info.named && !n.info.extra

def parts (n : Node) : List Node := n.children.filter isPart

def partsOfKind (n : Node) (kind : String) : List Node := n.parts.filter (·.kind == kind)

def firstPart? (n : Node) : Option Node := n.parts.head?

/-- The first child that plays a role, as `name` or `return_type`; an extra node plays none. -/
def child? (n : Node) (role : String) : Option Node :=
  n.children.find? fun child => !child.info.extra && child.info.role == some role

def hasChild (n : Node) (kind : String) : Bool := n.children.any (·.kind == kind)

mutual

def ids : Node → List Nat
  | mk info children => info.id :: idsOfParts children

def idsOfParts : List Node → List Nat
  | [] => []
  | n :: rest => if n.isPart then ids n ++ idsOfParts rest else idsOfParts rest

end

mutual

/-- The node with ids counted from `next` in order of appearance, and the next free id. -/
def number (next : Nat) : Node → Node × Nat
  | mk info children =>
    let (numbered, free) := numberAll (next + 1) children
    (mk { info with id := next } numbered, free)

def numberAll (next : Nat) : List Node → List Node × Nat
  | [] => ([], next)
  | n :: rest =>
    let (first, free) := number next n
    let (others, free) := numberAll free rest
    (first :: others, free)

end

end Node

/-- A node, the node around it, and the siblings before it from left to right. -/
structure Site where
  node : Node
  parent : Option Node
  before : List Node

namespace Site

def ofSiblings (parent : Node) (before : List Node) : List Node → List Site
  | [] => []
  | n :: rest =>
    let later := ofSiblings parent (before ++ [n]) rest
    if n.isPart then ⟨n, some parent, before⟩ :: later else later

def children (s : Site) : List Site := ofSiblings s.node [] s.node.children

def previous? (s : Site) : Option Node := (s.before.filter Node.isPart).getLast?

def id (s : Site) : Nat := s.node.id

end Site

structure Tree where
  source : String
  root : Node

namespace Tree

def text (t : Tree) (n : Node) : String :=
  String.ofList (Text.slice t.source.toList n.info.start n.info.stop)

def position (t : Tree) (n : Node) : Text.Position :=
  Text.positionOf (Text.bytes t.source) n.start

def sites (t : Tree) : List Site :=
  walk Site.children Site.id t.root.ids ⟨t.root, none, []⟩

end Tree
end HouseStyle
