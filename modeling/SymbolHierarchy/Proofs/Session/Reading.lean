import SymbolHierarchy.Proofs.Session.Sides
import SymbolHierarchy.View.Item

/-! The trees that stand in a forest. Where children stand behind their parents the bound on
the depth cuts nothing off, what was planted reads back as it was, and what is seen of a tree
depends on the nodes below its root alone. -/
namespace SymbolHierarchy

def Face.node (n : Face) (cs : List Node) : Node :=
  .mk n.symbol n.facet n.numChildren cs n.synthetic n.revealed

namespace Forest

theorem orderedChild {f : Forest} (ordered : f.Ordered) {h : Nat} {c : Cell}
    (found : f[h]? = some c) {child : Nat} (mem : child ∈ c.children) :
    h < child ∧ child < f.length :=
  ordered h child (childrenOf found ▸ mem)

theorem belowInside {f : Forest} (ordered : f.Ordered) {top h : Nat} (inside : top < f.length)
    (below : f.Below top h) : h < f.length := by
  cases below with
  | self => exact inside
  | child above mem => exact (ordered _ _ mem).2

theorem belowTrans {f : Forest} {top mid h : Handle} (above : f.Below top mid)
    (below : f.Below mid h) : f.Below top h := by
  induction below with
  | self => exact above
  | child _ mem ih => exact .child ih mem

theorem treeToEnough {f : Forest} (ordered : f.Ordered) {d e h : Nat}
    (deep : f.length ≤ h + d) (other : f.length ≤ h + e) : f.treeTo d h = f.treeTo e h := by
  induction d generalizing e h with
  | zero =>
    have beyond : f[h]? = none := List.getElem?_eq_none deep
    cases e with
    | zero => rfl
    | succ e => simp [treeTo, beyond]
  | succ d ih =>
    cases found : f[h]? with
    | none => cases e <;> simp [treeTo, found]
    | some c =>
      have inside := (List.getElem?_eq_some_iff.mp found).1
      cases e with
      | zero => omega
      | succ e =>
        have below : c.children.filterMap (f.treeTo d) = c.children.filterMap (f.treeTo e) := by
          refine List.filterMap_congr ?_
          intro child mem
          have later := orderedChild ordered found mem
          exact ih (by omega) (by omega)
        simp [treeTo, found, below]

theorem treeUnfold {f : Forest} (ordered : f.Ordered) {h : Nat} {c : Cell}
    (found : f[h]? = some c) :
    f.tree? h = some (.mk c.symbol c.facet c.numChildren (c.children.filterMap f.tree?)
      c.synthetic c.revealed) := by
  have inside := (List.getElem?_eq_some_iff.mp found).1
  obtain ⟨d, length⟩ := Nat.exists_eq_succ_of_ne_zero (Nat.ne_of_gt (Nat.zero_lt_of_lt inside))
  have below : c.children.filterMap (f.treeTo d) = c.children.filterMap f.tree? := by
    refine List.filterMap_congr ?_
    intro child mem
    have later := orderedChild ordered found mem
    exact treeToEnough ordered (by omega) (by omega)
  rw [tree?, length, treeTo, found, Option.map_some, below]

theorem treeThere {f : Forest} (ordered : f.Ordered) {h : Nat} (inside : h < f.length) :
    (f.tree? h).isSome := by
  rw [treeUnfold ordered (List.getElem?_eq_getElem inside)]
  rfl

theorem filledMap {α β : Type} {read : α → Option β} {as : List α}
    (each : ∀ a ∈ as, (read a).isSome) : as.map read = (as.filterMap read).map some := by
  induction as with
  | nil => rfl
  | cons a rest ih =>
    obtain ⟨b, here⟩ := Option.isSome_iff_exists.mp (each a List.mem_cons_self)
    have later := ih fun x mem => each x (List.mem_cons_of_mem _ mem)
    simp [here, later]

theorem treeAt {f : Forest} (ordered : f.Ordered) {h : Nat} {c : Cell}
    (found : f[h]? = some c) :
    ∃ ns, c.children.map f.tree? = ns.map some ∧
      f.tree? h = some (.mk c.symbol c.facet c.numChildren ns c.synthetic c.revealed) := by
  refine ⟨_, filledMap ?_, treeUnfold ordered found⟩
  intro child mem
  exact treeThere ordered (orderedChild ordered found mem).2

def Holds (f : Forest) (base : Nat) (cells : List Cell) : Prop :=
  ∀ i, i < cells.length → f[base + i]? = cells[i]?

theorem Holds.front {f : Forest} {base : Nat} {first rest : List Cell}
    (holds : f.Holds base (first ++ rest)) : f.Holds base first := by
  intro i inside
  rw [holds i (by rw [List.length_append]; omega), List.getElem?_append_left inside]

theorem Holds.back {f : Forest} {base : Nat} {first rest : List Cell}
    (holds : f.Holds base (first ++ rest)) : f.Holds (base + first.length) rest := by
  intro i inside
  rw [Nat.add_assoc, holds (first.length + i) (by rw [List.length_append]; omega),
    List.getElem?_append_right (Nat.le_add_right _ _), Nat.add_sub_cancel_left]

theorem Holds.own {f : Forest} {base : Nat} {n : Node} (holds : f.Holds base (n.cells base)) :
    f[base]? = some (n.cell (base + 1)) := by
  rw [Node.cellsSplit] at holds
  simpa using holds 0 (by simp)

theorem Holds.below {f : Forest} {base : Nat} {n : Node} (holds : f.Holds base (n.cells base)) :
    f.Holds (base + 1) (Node.cellsAll (base + 1) n.children) := by
  rw [Node.cellsSplit, ← List.singleton_append] at holds
  exact holds.back

theorem Holds.kept {f f' : Forest} {base : Nat} {cells : List Cell} (holds : f.Holds base cells)
    (same : ∀ x < f.length, base ≤ x → x < base + cells.length → f'[x]? = f[x]?) :
    f'.Holds base cells := by
  intro i inside
  have found := holds i inside
  rw [List.getElem?_eq_getElem inside] at found
  have there := (List.getElem?_eq_some_iff.mp found).1
  rw [same _ there (by omega) (by omega), holds i inside]

theorem plantHolds (f : Forest) (n : Node) : (f.plant n).Holds f.length (n.cells f.length) := by
  intro i _
  rw [plant, List.getElem?_append_right (Nat.le_add_right _ _), Nat.add_sub_cancel_left]

mutual
theorem heldTree {f : Forest} (ordered : f.Ordered) {base : Nat} {n : Node}
    (holds : f.Holds base (n.cells base)) : f.tree? base = some n := by
  cases n with
  | mk s facet k cs y r =>
    obtain ⟨ns, read, tree⟩ := treeAt ordered holds.own
    have same : ns = cs :=
      (List.map_inj_right fun _ _ => Option.some.inj).mp
        (read.symm.trans (heldTrees ordered holds.below))
    rw [tree, same]
    rfl
theorem heldTrees {f : Forest} (ordered : f.Ordered) {base : Nat} {ns : List Node}
    (holds : f.Holds base (Node.cellsAll base ns)) :
    (placesFrom base ns).map f.tree? = ns.map some := by
  cases ns with
  | nil => rfl
  | cons n rest =>
    have first := heldTree ordered (Holds.front holds)
    have later := Holds.back holds
    rw [cellsCount] at later
    simp only [placesFrom, List.map_cons, first, heldTrees ordered later]
end

section Alike

variable {β : Type} {seen : Node → β} {shape : Face → List β → β}

theorem seenAt (fold : ∀ n, seen n = shape n.face (n.children.map seen)) {f : Forest}
    (ordered : f.Ordered) {h : Nat} {c : Cell} (found : f[h]? = some c) :
    ∃ ls, c.children.map (fun x => (f.tree? x).map seen) = ls.map some ∧
      (f.tree? h).map seen = some (shape c.face ls) := by
  obtain ⟨ns, read, tree⟩ := treeAt ordered found
  have count : c.children.length = ns.length := by simpa using congrArg List.length read
  refine ⟨ns.map seen, ?_, ?_⟩
  · have images := congrArg (List.map (Option.map seen)) read
    simpa [Function.comp_def] using images
  · rw [tree, Option.map_some, fold]
    simp [Node.face, Cell.face, Node.symbol, Node.facet, Node.numChildren, Node.children,
      Node.synthetic, Node.revealed, count]

def Alike (shape : Face → List β → β) (f f' : Forest) (top : Handle) : Prop :=
  ∀ h, f.Below top h → ∀ c, f[h]? = some c →
    ∃ c', f'[h]? = some c' ∧ c'.children = c.children ∧
      ∀ ls, shape c'.face ls = shape c.face ls

theorem alikeSeen (fold : ∀ n, seen n = shape n.face (n.children.map seen)) {f f' : Forest}
    (ordered : f.Ordered) (ordered' : f'.Ordered) {top : Nat} (alike : Alike shape f f' top)
    (inside : top < f.length) : (f'.tree? top).map seen = (f.tree? top).map seen := by
  -- on the number of places behind the root, which falls at every child
  induction gap : f.length - top using Nat.strongRecOn generalizing top with
  | ind gap ih =>
    have found : f[top]? = some f[top] := List.getElem?_eq_getElem inside
    obtain ⟨c', found', same, shown⟩ := alike top .self _ found
    obtain ⟨ls, read, tree⟩ := seenAt fold ordered found
    obtain ⟨ls', read', tree'⟩ := seenAt fold ordered' found'
    have each : c'.children.map (fun x => (f'.tree? x).map seen) =
        f[top].children.map (fun x => (f.tree? x).map seen) := by
      rw [same]
      refine List.map_congr_left ?_
      intro child mem
      have later := orderedChild ordered found mem
      have under : f.Below top child := .child .self (childrenOf found ▸ mem)
      exact ih _ (by omega) (fun h below => alike h (belowTrans under below)) later.2 rfl
    have equal : ls' = ls :=
      (List.map_inj_right fun _ _ => Option.some.inj).mp (read'.symm.trans (each.trans read))
    rw [tree', tree, equal, shown]

end Alike

theorem wholeFold (n : Node) : id n = n.face.node (n.children.map id) := by
  cases n
  simp [Node.face, Face.node, Node.symbol, Node.facet, Node.numChildren, Node.children,
    Node.synthetic, Node.revealed]

theorem treeKept {f f' : Forest} (ordered : f.Ordered) (ordered' : f'.Ordered) {top : Nat}
    (inside : top < f.length) (kept : ∀ h, f.Below top h → f'[h]? = f[h]?) :
    f'.tree? top = f.tree? top := by
  have alike : Alike Face.node f f' top :=
    fun h below c found => ⟨c, (kept h below).trans found, rfl, fun _ => rfl⟩
  simpa using alikeSeen wholeFold ordered ordered' alike inside

end Forest
end SymbolHierarchy
