import SymbolHierarchy.Proofs.Node.Tree
import SymbolHierarchy.Session.Forest

/-! Where the nodes of a tree stand once it is laid out: in preorder, one place each, every
subtree in one stretch. So the children of a cell stand behind it, inside its tree. -/
namespace SymbolHierarchy

def Node.cell (below : Nat) (n : Node) : Cell :=
  ⟨n.symbol, n.facet, n.numChildren, placesFrom below n.children, n.synthetic, n.revealed⟩

namespace Node

theorem cellsSplit (base : Nat) (n : Node) :
    n.cells base = n.cell (base + 1) :: cellsAll (base + 1) n.children := by
  cases n
  rfl

theorem sizeSelf (n : Node) : n.size = sizeAll n.children + 1 := by
  cases n
  rfl

mutual
theorem preorderCount (n : Node) : n.preorder.length = n.size := by
  cases n with
  | mk s f k cs y r => simp [preorder, size, preorderAllCount]
theorem preorderAllCount (ns : List Node) : (preorderAll ns).length = sizeAll ns := by
  cases ns with
  | nil => rfl
  | cons n rest => simp [preorderAll, sizeAll, preorderCount, preorderAllCount]
end

mutual
theorem cellsPreorder (base : Nat) (n : Node) :
    n.cells base = n.preorder.mapIdx fun i x => x.cell (base + i + 1) := by
  cases n with
  | mk s f k cs y r =>
    simp only [cells, preorder, List.mapIdx_cons, cellsAllPreorder]
    congr 1
    simp only [Nat.add_assoc, Nat.add_comm 1]
theorem cellsAllPreorder (base : Nat) (ns : List Node) :
    cellsAll base ns = (preorderAll ns).mapIdx fun i x => x.cell (base + i + 1) := by
  cases ns with
  | nil => rfl
  | cons n rest =>
    simp only [cellsAll, preorderAll, List.mapIdx_append, cellsPreorder, cellsAllPreorder,
      preorderCount]
    congr 2
    funext i x
    rw [Nat.add_assoc base, Nat.add_comm n.size]
end

mutual
theorem preorderStretch {n x : Node} {i : Nat} (found : n.preorder[i]? = some x) :
    ∃ front back, n.preorder = front ++ x.preorder ++ back ∧ front.length = i := by
  cases n with
  | mk s f k cs y r =>
    cases i with
    | zero =>
      have same : mk s f k cs y r = x := by simpa [preorder] using found
      exact ⟨[], [], by simp [same], rfl⟩
    | succ i =>
      have inside : (preorderAll cs)[i]? = some x := by simpa [preorder] using found
      obtain ⟨front, back, split, length⟩ := preorderAllStretch inside
      exact ⟨mk s f k cs y r :: front, back, by simp [preorder, split], by simp [length]⟩
theorem preorderAllStretch {ns : List Node} {x : Node} {i : Nat}
    (found : (preorderAll ns)[i]? = some x) :
    ∃ front back, preorderAll ns = front ++ x.preorder ++ back ∧ front.length = i := by
  cases ns with
  | nil => simp [preorderAll] at found
  | cons n rest =>
    simp only [preorderAll] at found ⊢
    by_cases inside : i < n.preorder.length
    · rw [List.getElem?_append_left inside] at found
      obtain ⟨front, back, split, length⟩ := preorderStretch found
      exact ⟨front, back ++ preorderAll rest, by simp [split], length⟩
    · rw [List.getElem?_append_right (by omega)] at found
      obtain ⟨front, back, split, length⟩ := preorderAllStretch found
      exact ⟨n.preorder ++ front, back, by simp [split], by simp [length]; omega⟩
end

end Node

theorem placesRange {base : Nat} {ns : List Node} {h : Nat} (mem : h ∈ placesFrom base ns) :
    base ≤ h ∧ h < base + Node.sizeAll ns := by
  induction ns generalizing base with
  | nil => simp [placesFrom] at mem
  | cons n rest ih =>
    have own := n.sizeSelf
    simp only [placesFrom, List.mem_cons] at mem
    simp only [Node.sizeAll]
    rcases mem with rfl | later
    · omega
    · have := ih later
      omega

theorem cellsAllAt {base : Nat} {ns : List Node} {i : Nat} {c : Cell}
    (found : (Node.cellsAll base ns)[i]? = some c) :
    ∃ x ∈ Node.preorderAll ns, c = x.cell (base + i + 1) ∧
      ∀ h : Nat, h ∈ c.children → base + i < h ∧ h < base + Node.sizeAll ns := by
  rw [Node.cellsAllPreorder, List.getElem?_mapIdx, Option.map_eq_some_iff] at found
  obtain ⟨x, place, rfl⟩ := found
  refine ⟨x, List.mem_of_getElem? place, rfl, ?_⟩
  intro h child
  obtain ⟨front, back, split, length⟩ := Node.preorderAllStretch place
  have whole := congrArg List.length split
  simp only [List.length_append, Node.preorderAllCount, Node.preorderCount, length] at whole
  have own := x.sizeSelf
  have range := placesRange child
  omega

theorem Forest.plantOne (f : Forest) (n : Node) : f.plant n = f.plantAll [n] := by
  simp [plant, plantAll, Node.cellsAll]

end SymbolHierarchy
