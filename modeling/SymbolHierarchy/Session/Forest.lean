import SymbolHierarchy.Node.Basic

/-! The nodes that a session has made. Each keeps its place for good, also once
no tree holds it any more, and names its children by their places. A tree is
laid out with every node before its children, so a child's place is always
beyond its parent's. -/
namespace SymbolHierarchy

abbrev Handle := Nat

structure Cell where
  symbol : Symbol
  facet : Facet
  numChildren : Int
  children : List Handle
  synthetic : Bool
  revealed : Bool
  deriving DecidableEq, Repr

namespace Cell

def isExpandable (c : Cell) : Bool := c.numChildren > 0
def isMaterialized (c : Cell) : Bool := (c.children.length : Int) == c.numChildren

end Cell

def placesFrom (base : Nat) : List Node → List Handle
  | [] => []
  | n :: rest => base :: placesFrom (base + n.size) rest

mutual
def Node.cells (base : Nat) : Node → List Cell
  | .mk s f n cs y r =>
    ⟨s, f, n, placesFrom (base + 1) cs, y, r⟩ :: Node.cellsAll (base + 1) cs
def Node.cellsAll (base : Nat) : List Node → List Cell
  | [] => []
  | n :: rest => Node.cells base n ++ Node.cellsAll (base + n.size) rest
end

theorem placesCount (base : Nat) (ns : List Node) :
    (placesFrom base ns).length = ns.length := by
  induction ns generalizing base with
  | nil => rfl
  | cons n rest ih => simp [placesFrom, ih]

mutual
theorem cellsCount (base : Nat) (n : Node) : (n.cells base).length = n.size := by
  cases n with
  | mk s f k cs y r => simp [Node.cells, Node.size, cellsAllCount]
theorem cellsAllCount (base : Nat) (ns : List Node) :
    (Node.cellsAll base ns).length = Node.sizeAll ns := by
  cases ns with
  | nil => simp [Node.cellsAll, Node.sizeAll]
  | cons n rest => simp [Node.cellsAll, Node.sizeAll, cellsCount, cellsAllCount]
end

abbrev Forest := List Cell

namespace Forest

def plant (f : Forest) (n : Node) : Forest := f ++ n.cells f.length

def plantAll (f : Forest) (ns : List Node) : Forest := f ++ Node.cellsAll f.length ns

def adopt (f : Forest) (h : Handle) (numChildren : Int) (children : List Handle) : Forest :=
  f.modify h fun c => { c with numChildren := numChildren, children := children }

def reveal (f : Forest) (h : Handle) : Forest :=
  f.modify h fun c => { c with revealed := true }

theorem adoptElsewhere (f : Forest) (h i : Handle) (k : Int) (cs : List Handle) (other : h ≠ i) :
    (f.adopt h k cs)[i]? = f[i]? := by
  simp [adopt, other]

theorem revealElsewhere (f : Forest) (h i : Handle) (other : h ≠ i) :
    (f.reveal h)[i]? = f[i]? := by
  simp [reveal, other]

theorem plantKeeps (f : Forest) (n : Node) (i : Handle) (old : i < f.length) :
    (f.plant n)[i]? = f[i]? := by
  simp [plant, List.getElem?_append_left old]

theorem plantAllKeeps (f : Forest) (ns : List Node) (i : Handle) (old : i < f.length) :
    (f.plantAll ns)[i]? = f[i]? := by
  simp [plantAll, List.getElem?_append_left old]

def treeTo (f : Forest) : Nat → Handle → Option Node
  | 0, _ => none
  | depth + 1, h =>
    f[h]?.map fun c =>
      .mk c.symbol c.facet c.numChildren (c.children.filterMap (treeTo f depth)) c.synthetic
        c.revealed

def tree? (f : Forest) (h : Handle) : Option Node := f.treeTo f.length h

def descend (f : Forest) : Handle → List Nat → Option Handle
  | h, [] => some h
  | h, i :: rest => do
    let c ← f[h]?
    descend f (← c.children[i]?) rest

end Forest
end SymbolHierarchy
