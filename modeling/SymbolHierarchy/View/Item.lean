import SymbolHierarchy.Session.Forest
import SymbolHierarchy.Uri.Parts

/-! What a view shows of one node: its label, whether it is drawn open, its icon.
A view reads only the face of a node, so a node standing alone and one held by a
session look alike when their faces do. -/
namespace SymbolHierarchy

inductive CollapseState
  | none
  | collapsed
  | expanded
  deriving DecidableEq, Repr

def CollapseState.code : CollapseState → Int
  | .none => 0
  | .collapsed => 1
  | .expanded => 2

structure IconTheme where
  base : Option String := none
  derived : Option String := none
  deriving DecidableEq, Repr, Inhabited

structure Item where
  label : String
  state : CollapseState
  icon : Option String
  nodeId : Option NodeId
  hasChildren : Bool
  deriving DecidableEq, Repr

/-- What a view reads of a node; `carried` counts the children at hand. -/
structure Face where
  symbol : Symbol
  facet : Facet
  numChildren : Int
  carried : Nat
  synthetic : Bool
  revealed : Bool
  deriving DecidableEq, Repr

def Node.face (n : Node) : Face :=
  ⟨n.symbol, n.facet, n.numChildren, n.children.length, n.synthetic, n.revealed⟩

def Cell.face (c : Cell) : Face :=
  ⟨c.symbol, c.facet, c.numChildren, c.children.length, c.synthetic, c.revealed⟩

namespace Face

def isExpandable (n : Face) : Bool := n.numChildren > 0

def isExpanded (n : Face) : Bool := n.isExpandable && (n.carried : Int) == n.numChildren

def label (n : Face) : Except Raised String :=
  match n.synthetic, n.symbol.location with
  | false, some l => do
    let file ← Uri.basename l.uri
    .ok (n.symbol.name ++ " (" ++ file ++ ":" ++ toString (l.range.start.line + 1) ++ ")")
  | _, _ => .ok n.symbol.name

/-- A leaf has no state. The group of supertypes stays closed until it is
revealed; any other node is open once its children are at hand. -/
def collapseState (n : Face) : CollapseState :=
  if n.numChildren == 0 then .none
  else if n.synthetic then if n.revealed then .expanded else .collapsed
  else if n.isExpanded then .expanded
  else .collapsed

def icon (icons : IconTheme) (n : Face) : Option String :=
  match n.facet with
  | .call .base => icons.base
  | .call .derived => icons.derived
  | _ => none

def item (icons : IconTheme) (n : Face) : Except Raised Item := do
  .ok ⟨← n.label, n.collapseState, n.icon icons, n.symbol.id, n.isExpandable⟩

end Face
end SymbolHierarchy
