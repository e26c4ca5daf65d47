import SymbolHierarchy.Schema.Violation
import SymbolHierarchy.Data.Literal

/-! Vertices of a hierarchy as values: a symbol, how many children it reports,
and the children at hand. Being synthetic or revealed is known to this side
only and is never written to a server. -/
namespace SymbolHierarchy

structure Position where
  line : Int
  character : Int
  deriving DecidableEq, Repr

structure Range where
  start : Position
  stop : Position
  deriving DecidableEq, Repr

structure Location where
  uri : String
  range : Range
  deriving DecidableEq, Repr

inductive NodeId
  | int (n : Int)
  | text (s : String)
  deriving DecidableEq, Repr

def NodeId.scalar : NodeId → Scalar
  | .int n => .int n
  | .text s => .text s

def idScalar : Option NodeId → Scalar
  | none => .null
  | some i => i.scalar

inductive CallType
  | normal
  | base
  | derived
  | all
  deriving DecidableEq, Repr

def CallType.code : CallType → Int
  | .normal => 0
  | .base => 1
  | .derived => 2
  | .all => 3

def CallType.ofCode? (n : Int) : Option CallType :=
  [CallType.normal, .base, .derived, .all].find? fun t => t.code = n

inductive Model
  | base
  | call
  | inheritance
  deriving DecidableEq, Repr

def Model.name : Model → String
  | .base => "HierarchyNode"
  | .call => "CallHierarchyNode"
  | .inheritance => "InheritanceHierarchyNode"

inductive Facet
  | plain
  | call (type : CallType)
  | inheritance (wantsDerived : Bool)
  deriving DecidableEq, Repr

structure Symbol where
  id : Option NodeId
  name : String
  kind : Option Int
  location : Option Location
  deriving DecidableEq, Repr

inductive Node
  | mk (symbol : Symbol) (facet : Facet) (numChildren : Int) (children : List Node)
    (synthetic : Bool) (revealed : Bool)
  deriving Repr

namespace Node

def symbol : Node → Symbol
  | mk s _ _ _ _ _ => s
def facet : Node → Facet
  | mk _ f _ _ _ _ => f
def numChildren : Node → Int
  | mk _ _ n _ _ _ => n
def children : Node → List Node
  | mk _ _ _ cs _ _ => cs
def synthetic : Node → Bool
  | mk _ _ _ _ s _ => s
def revealed : Node → Bool
  | mk _ _ _ _ _ r => r

def id (n : Node) : Option NodeId := n.symbol.id
def name (n : Node) : String := n.symbol.name
def location (n : Node) : Option Location := n.symbol.location

def isExpandable (n : Node) : Bool := n.numChildren > 0

def isMaterialized (n : Node) : Bool := (n.children.length : Int) == n.numChildren

def isExpanded (n : Node) : Bool := n.isExpandable && n.isMaterialized

mutual
def preorder : Node → List Node
  | .mk s f k cs y r => .mk s f k cs y r :: preorderAll cs
def preorderAll : List Node → List Node
  | [] => []
  | n :: rest => preorder n ++ preorderAll rest
end

mutual
def size : Node → Nat
  | .mk _ _ _ cs _ _ => sizeAll cs + 1
def sizeAll : List Node → Nat
  | [] => 0
  | n :: rest => size n + sizeAll rest
end

end Node
end SymbolHierarchy
