import SymbolHierarchy.Proofs.Session.Grounds
import Mathlib.Data.List.Nodup
import Mathlib.Data.List.Range

/-! No two nodes of a session hold one child, and none holds a child twice. A tree that is laid out
takes each of its places once, as a root of it or as a child; so what stands below a node is a tree
in the forest as well, and what stands below two of its children is apart. -/
namespace SymbolHierarchy

namespace Node

mutual
theorem cellsPlaces (base : Nat) (n : Node) :
    (base :: (n.cells base).flatMap Cell.children).Perm (List.range' base n.size) := by
  cases n with
  | mk s f k cs y r =>
    simp only [cells, size, List.flatMap_cons, List.range'_succ]
    exact (cellsAllPlaces (base + 1) cs).cons base
theorem cellsAllPlaces (base : Nat) (ns : List Node) :
    (placesFrom base ns ++ (cellsAll base ns).flatMap Cell.children).Perm
      (List.range' base (sizeAll ns)) := by
  cases ns with
  | nil => simp [placesFrom, cellsAll, sizeAll]
  | cons n rest =>
    simp only [placesFrom, cellsAll, sizeAll, List.flatMap_append]
    rw [← List.range'_append_1]
    refine List.Perm.trans ?_ ((cellsPlaces base n).append (cellsAllPlaces (base + n.size) rest))
    exact (List.perm_append_comm_assoc _ _ _).cons base
end

end Node

namespace Forest

structure Sole (f : Forest) : Prop where
  distinct : ∀ h, (f.childrenAt h).Nodup
  parent : ∀ p q child, child ∈ f.childrenAt p → child ∈ f.childrenAt q → p = q

section Planted

variable (f : Forest) (ns : List Node)

theorem plantedAlone : (placesFrom f.length ns ++
    (Node.cellsAll f.length ns).flatMap Cell.children).Nodup :=
  (Node.cellsAllPlaces f.length ns).nodup_iff.mpr List.nodup_range'

theorem plantedApart : (∀ c ∈ Node.cellsAll f.length ns, c.children.Nodup) ∧
    (Node.cellsAll f.length ns).Pairwise (Function.onFun List.Disjoint Cell.children) :=
  List.nodup_flatMap.mp (plantedAlone f ns).of_append_right

variable {f ns}

theorem plantedCell {i child : Nat} (mem : child ∈ (f.plantAll ns).childrenAt (f.length + i)) :
    ∃ inside : i < (Node.cellsAll f.length ns).length,
      child ∈ (Node.cellsAll f.length ns)[i].children := by
  rw [childrenAt, plantAll, List.getElem?_append_right (Nat.le_add_right _ _),
    Nat.add_sub_cancel_left] at mem
  cases found : (Node.cellsAll f.length ns)[i]? with
  | none => simp [found] at mem
  | some c =>
    obtain ⟨inside, rfl⟩ := List.getElem?_eq_some_iff.mp found
    exact ⟨inside, by simpa [found] using mem⟩

theorem plantedDistinct (i : Nat) : ((f.plantAll ns).childrenAt (f.length + i)).Nodup := by
  rw [childrenAt, plantAll, List.getElem?_append_right (Nat.le_add_right _ _),
    Nat.add_sub_cancel_left]
  cases found : (Node.cellsAll f.length ns)[i]? with
  | none => exact List.nodup_nil
  | some c => exact (plantedApart f ns).1 c (List.mem_of_getElem? found)

theorem plantedParent {i j child : Nat}
    (one : child ∈ (f.plantAll ns).childrenAt (f.length + i))
    (other : child ∈ (f.plantAll ns).childrenAt (f.length + j)) : i = j := by
  obtain ⟨inside, mem⟩ := plantedCell one
  obtain ⟨inside', mem'⟩ := plantedCell other
  have apart := List.pairwise_iff_getElem.mp (plantedApart f ns).2
  rcases Nat.lt_trichotomy i j with less | same | more
  · exact (apart i j inside inside' less mem mem').elim
  · exact same
  · exact (apart j i inside' inside more mem' mem).elim

theorem plantedTop {i child : Nat} (top : child ∈ placesFrom f.length ns) :
    child ∉ (f.plantAll ns).childrenAt (f.length + i) := by
  intro held
  obtain ⟨inside, mem⟩ := plantedCell held
  have below : child ∈ (Node.cellsAll f.length ns).flatMap Cell.children :=
    List.mem_flatMap.mpr ⟨_, List.getElem_mem inside, mem⟩
  exact (List.nodup_append.mp (plantedAlone f ns)).2.2 child top child below rfl

theorem placesDistinct : (placesFrom f.length ns).Nodup := (plantedAlone f ns).of_append_left

theorem plantedSide (ordered : f.Ordered) {p child : Nat}
    (mem : child ∈ (f.plantAll ns).childrenAt p) : p < f.length ↔ child < f.length := by
  rcases Nat.lt_or_ge p f.length with old | new
  · rw [plantAllChildren ns old] at mem
    have inside := (ordered p child mem).2
    omega
  · obtain ⟨i, rfl⟩ := Nat.exists_eq_add_of_le new
    have range := plantedChildren mem
    omega

theorem plantAllSole (ordered : f.Ordered) (sole : f.Sole) : (f.plantAll ns).Sole where
  distinct h := by
    rcases Nat.lt_or_ge h f.length with old | new
    · rw [plantAllChildren ns old]
      exact sole.distinct h
    · obtain ⟨i, rfl⟩ := Nat.exists_eq_add_of_le new
      exact plantedDistinct i
  parent p q child one other := by
    have side := plantedSide ordered one
    have side' := plantedSide ordered other
    rcases Nat.lt_or_ge p f.length with old | new
    · have old' : q < f.length := side'.mpr (side.mp old)
      rw [plantAllChildren ns old] at one
      rw [plantAllChildren ns old'] at other
      exact sole.parent p q child one other
    · have new' : f.length ≤ q := by omega
      obtain ⟨i, rfl⟩ := Nat.exists_eq_add_of_le new
      obtain ⟨j, rfl⟩ := Nat.exists_eq_add_of_le new'
      rw [plantedParent one other]

theorem shownSole (sole : f.Sole) (h : Handle) : (f.shown h).Sole where
  distinct i := by simpa using sole.distinct i
  parent p q child := by simpa using sole.parent p q child

end Planted

section Apart

variable {f : Forest} {a b p x : Nat}

theorem belowChain (sole : f.Sole) (one : f.Below a x) (other : f.Below b x) :
    f.Below a b ∨ f.Below b a := by
  induction one with
  | self => exact .inr other
  | child above mem ih =>
    cases other with
    | self => exact .inl (.child above mem)
    | child above' mem' =>
      rw [sole.parent _ _ _ mem' mem] at above'
      exact ih above'

theorem siblingAbove (ordered : f.Ordered) (sole : f.Sole) (one : a ∈ f.childrenAt p)
    (other : b ∈ f.childrenAt p) (below : f.Below a b) : a = b := by
  cases below with
  | self => rfl
  | child above mem =>
    rw [sole.parent _ _ _ mem other] at above
    have behind := belowOrdered ordered above
    have front := (ordered p a one).1
    omega

theorem siblingsApart (ordered : f.Ordered) (sole : f.Sole) (one : a ∈ f.childrenAt p)
    (other : b ∈ f.childrenAt p) (different : a ≠ b) (below : f.Below a x) : ¬ f.Below b x := by
  intro below'
  rcases belowChain sole below below' with above | above
  · exact different (siblingAbove ordered sole one other above)
  · exact different (siblingAbove ordered sole other one above).symm

end Apart

end Forest

namespace Session

variable {s s' : Session} {i : Input} {f : Forest} {root : Option Handle}
  {ins : List (Ticket × Handle)} {es : List Effect}

theorem grownSole {h : Nat} {n : Node} (ordered : s.forest.Ordered) (sole : s.forest.Sole)
    (target : h < s.forest.length) : (s.grown h n).Sole := by
  have planted : (s.forest.plantAll (s.newChildren h n)).Sole := Forest.plantAllSole ordered sole
  have other : ∀ q, q ≠ h → (s.grown h n).childrenAt q =
      (s.forest.plantAll (s.newChildren h n)).childrenAt q :=
    fun q elsewhere => Forest.adoptChildrenOther (Ne.symm elsewhere)
  -- the new children of the target are roots of what is planted, and so are nobody else's
  have own : ∀ q child, q ≠ h → child ∈ (s.grown h n).childrenAt h →
      child ∉ (s.grown h n).childrenAt q := by
    intro q child elsewhere mem held
    rw [grownChildrenSelf target] at mem
    rw [other q elsewhere] at held
    have low := (placesRange mem).1
    have new : s.forest.length ≤ q := by
      have side := Forest.plantedSide ordered held
      omega
    obtain ⟨j, rfl⟩ := Nat.exists_eq_add_of_le new
    exact Forest.plantedTop mem held
  refine ⟨fun q => ?_, fun p q child one held => ?_⟩
  · by_cases here : q = h
    · subst here
      rw [grownChildrenSelf target]
      exact Forest.placesDistinct
    · rw [other q here]
      exact planted.distinct q
  · by_cases here : p = h
    · subst here
      exact Classical.byContradiction fun apart => own q child (Ne.symm apart) one held
    · by_cases there : q = h
      · subst there
        exact (own p child here held one).elim
      · rw [other p here] at one
        rw [other q there] at held
        exact planted.parent p q child one held

theorem turnsSole (grounded : s.Grounded) (turns : Turns s i f root ins)
    (sole : s.forest.Sole) : f.Sole := by
  cases turns with
  | rests => exact sole
  | closes => exact sole
  | looks asks =>
    cases asks with
    | expanding => exact sole
    | viewing => exact Forest.shownSole sole _
  | installs =>
    rw [Forest.plantOne]
    exact Forest.plantAllSole grounded.ordered sole
  | grows waits =>
    exact grownSole grounded.ordered sole (grounded.targets _ _ _ (pendingWaits waits))

theorem afterSole (k : Kind) (inputs : List Input) : ((fresh k).after inputs).forest.Sole := by
  have both : ((fresh k).after inputs).Grounded ∧ ((fresh k).after inputs).forest.Sole :=
    afterKeeps (P := fun s => s.Grounded ∧ s.forest.Sole)
      (fun moves own => ⟨movesGrounded moves own.1, turnsSole own.1 (movesTurns moves) own.2⟩)
      ⟨freshGrounded k, by simp [fresh, Forest.childrenAt], by simp [fresh, Forest.childrenAt]⟩
      inputs
  exact both.2

end Session

end SymbolHierarchy
