import SymbolHierarchy.Proofs.Session.Layout
import SymbolHierarchy.Proofs.Session.Moves

/-! What stands at the places of a forest, and what planting, growing and revealing change
there. What a node is stays for good; its children change only where it grows. -/
namespace SymbolHierarchy

structure Identity where
  symbol : Symbol
  facet : Facet
  synthetic : Bool
  deriving DecidableEq, Repr

def Cell.identity (c : Cell) : Identity := ⟨c.symbol, c.facet, c.synthetic⟩

def Node.identity (n : Node) : Identity := ⟨n.symbol, n.facet, n.synthetic⟩

namespace Forest

def identityAt (f : Forest) (h : Handle) : Option Identity := f[h]?.map Cell.identity

def facetAt (f : Forest) (h : Handle) : Option Facet := (f.identityAt h).map Identity.facet

def childrenAt (f : Forest) (h : Handle) : List Handle := (f[h]?.map Cell.children).getD []

def fullAt (f : Forest) (h : Handle) : Bool := (f[h]?.map Cell.isMaterialized).getD false

inductive Below (f : Forest) (top : Handle) : Handle → Prop
  | self : Below f top top
  | child {h child} (above : Below f top h) (mem : child ∈ f.childrenAt h) : Below f top child

theorem childrenOf {f : Forest} {h : Handle} {c : Cell} (found : f[h]? = some c) :
    f.childrenAt h = c.children := by
  simp [childrenAt, found]

theorem revealAt (f : Forest) (h i : Handle) :
    (f.reveal h)[i]? = f[i]?.map fun c => if h = i then { c with revealed := true } else c := by
  simp only [reveal, List.getElem?_modify]
  rfl

theorem shownAt (f : Forest) (h i : Handle) :
    ∃ told : Cell → Bool, (f.shown h)[i]? = f[i]?.map fun c => { c with revealed := told c } := by
  unfold shown
  split
  · split
    · refine ⟨fun c => if h = i then true else c.revealed, ?_⟩
      rw [revealAt]
      congr 1
      funext c
      split <;> rfl
    · exact ⟨Cell.revealed, by simp⟩
  · exact ⟨Cell.revealed, by simp⟩

@[simp] theorem shownLength (f : Forest) (h : Handle) : (f.shown h).length = f.length := by
  unfold shown
  split
  · split
    · exact List.length_modify _ _ _
    · rfl
  · rfl

@[simp] theorem shownIdentity (f : Forest) (h i : Handle) :
    (f.shown h).identityAt i = f.identityAt i := by
  obtain ⟨told, there⟩ := shownAt f h i
  rw [identityAt, there, Option.map_map]
  rfl

@[simp] theorem shownChildren (f : Forest) (h i : Handle) :
    (f.shown h).childrenAt i = f.childrenAt i := by
  obtain ⟨told, there⟩ := shownAt f h i
  rw [childrenAt, there, Option.map_map]
  rfl

@[simp] theorem shownFull (f : Forest) (h i : Handle) : (f.shown h).fullAt i = f.fullAt i := by
  obtain ⟨told, there⟩ := shownAt f h i
  rw [fullAt, there, Option.map_map]
  rfl

@[simp] theorem plantAllLength (f : Forest) (ns : List Node) :
    (f.plantAll ns).length = f.length + Node.sizeAll ns := by
  simp [plantAll, cellsAllCount]

section Old

variable {f : Forest} {i : Nat} (ns : List Node)

theorem plantAllIdentity (old : i < f.length) :
    (f.plantAll ns).identityAt i = f.identityAt i := by
  rw [identityAt, plantAllKeeps f ns i old, identityAt]

theorem plantAllChildren (old : i < f.length) :
    (f.plantAll ns).childrenAt i = f.childrenAt i := by
  rw [childrenAt, plantAllKeeps f ns i old, childrenAt]

theorem plantAllFull (old : i < f.length) : (f.plantAll ns).fullAt i = f.fullAt i := by
  rw [fullAt, plantAllKeeps f ns i old, fullAt]

end Old

theorem plantedAt (f : Forest) (ns : List Node) (i : Nat) :
    (f.plantAll ns)[f.length + i]? =
      (Node.preorderAll ns)[i]?.map fun x => x.cell (f.length + i + 1) := by
  rw [plantAll, List.getElem?_append_right (Nat.le_add_right _ _), Nat.add_sub_cancel_left,
    Node.cellsAllPreorder, List.getElem?_mapIdx]

theorem plantedIdentity (f : Forest) (ns : List Node) (i : Nat) :
    (f.plantAll ns).identityAt (f.length + i) = (Node.preorderAll ns)[i]?.map Node.identity := by
  rw [identityAt, plantedAt, Option.map_map]
  rfl

theorem plantedChildren {f : Forest} {ns : List Node} {i child : Nat}
    (mem : child ∈ (f.plantAll ns).childrenAt (f.length + i)) :
    f.length + i < child ∧ child < f.length + Node.sizeAll ns := by
  cases found : (f.plantAll ns)[f.length + i]? with
  | none => simp [childrenAt, found] at mem
  | some c =>
    rw [childrenOf found] at mem
    rw [plantAll, List.getElem?_append_right (Nat.le_add_right _ _),
      Nat.add_sub_cancel_left] at found
    obtain ⟨_, _, _, range⟩ := cellsAllAt found
    exact range child mem

theorem adoptAt (f : Forest) (h : Handle) (k : Int) (cs : List Handle) (i : Handle) :
    (f.adopt h k cs)[i]? =
      f[i]?.map fun c => if h = i then { c with numChildren := k, children := cs } else c := by
  simp only [adopt, List.getElem?_modify]
  rfl

@[simp] theorem adoptLength (f : Forest) (h : Handle) (k : Int) (cs : List Handle) :
    (f.adopt h k cs).length = f.length := List.length_modify _ _ _

@[simp] theorem adoptIdentity (f : Forest) (h : Handle) (k : Int) (cs : List Handle)
    (i : Handle) : (f.adopt h k cs).identityAt i = f.identityAt i := by
  rw [identityAt, adoptAt, Option.map_map, identityAt]
  congr 1
  funext c
  simp only [Function.comp_apply]
  split <;> rfl

theorem adoptChildrenOther {f : Forest} {h i : Nat} {k : Int} {cs : List Handle}
    (other : h ≠ i) : (f.adopt h k cs).childrenAt i = f.childrenAt i := by
  rw [childrenAt, adoptElsewhere f h i k cs other, childrenAt]

theorem adoptFullOther {f : Forest} {h i : Nat} {k : Int} {cs : List Handle}
    (other : h ≠ i) : (f.adopt h k cs).fullAt i = f.fullAt i := by
  rw [fullAt, adoptElsewhere f h i k cs other, fullAt]

theorem adoptChildrenSelf {f : Forest} {h : Nat} {k : Int} {cs : List Handle}
    (there : h < f.length) : (f.adopt h k cs).childrenAt h = cs := by
  rw [childrenAt, adoptAt, List.getElem?_eq_getElem there]
  simp

end Forest

namespace Session

variable {s : Session} {h i : Nat} {n : Node}

theorem grownLength :
    (s.grown h n).length = s.forest.length + Node.sizeAll (s.newChildren h n) := by
  simp [grown]

theorem grownIdentity (old : i < s.forest.length) :
    (s.grown h n).identityAt i = s.forest.identityAt i := by
  rw [grown, Forest.adoptIdentity, Forest.plantAllIdentity _ old]

theorem grownChildrenSelf (there : h < s.forest.length) :
    (s.grown h n).childrenAt h = placesFrom s.forest.length (s.newChildren h n) :=
  Forest.adoptChildrenSelf (by rw [Forest.plantAllLength]; omega)

theorem grownChildrenOther (old : i < s.forest.length) (other : h ≠ i) :
    (s.grown h n).childrenAt i = s.forest.childrenAt i := by
  rw [grown, Forest.adoptChildrenOther other, Forest.plantAllChildren _ old]

theorem grownFullOther (old : i < s.forest.length) (other : h ≠ i) :
    (s.grown h n).fullAt i = s.forest.fullAt i := by
  rw [grown, Forest.adoptFullOther other, Forest.plantAllFull _ old]

theorem grownChildrenNew (there : h < s.forest.length) {j child : Nat}
    (mem : child ∈ (s.grown h n).childrenAt (s.forest.length + j)) :
    s.forest.length + j < child ∧
      child < s.forest.length + Node.sizeAll (s.newChildren h n) := by
  rw [grown, Forest.adoptChildrenOther (by omega)] at mem
  exact Forest.plantedChildren mem

end Session
end SymbolHierarchy
