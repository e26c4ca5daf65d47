import SymbolHierarchy.Proofs.Node.Facing
import SymbolHierarchy.Proofs.Session.Places

/-! The two sides of a root in a forest: below the group, which is its first child, and
elsewhere. On either side every child faces as its parent does. -/
namespace SymbolHierarchy

namespace Forest
open Node (Faces)

def groupIdentity : Identity := ⟨⟨none, Node.groupName, none, none⟩, .inheritance false, true⟩

def Ordered (f : Forest) : Prop :=
  ∀ h child : Nat, child ∈ f.childrenAt h → h < child ∧ child < f.length

def Directed (f : Forest) : Prop :=
  ∀ h facet, f.facetAt h = some facet → ∃ d, facet = .inheritance d

/- From the root on every node faces as its parent does, but for the group, which stands
first below the root and faces the other way. A root with a group is complete. -/
structure Sided (f : Forest) (r : Nat) (g : Option Nat) : Prop where
  top : f.facetAt r = some (.inheritance true)
  edges : ∀ h child : Nat, r ≤ h → child ∈ f.childrenAt h → g ≠ some child →
    f.facetAt child = f.facetAt h
  group : ∀ q, g = some q → f.identityAt q = some groupIdentity ∧
    (f.childrenAt r).head? = some q ∧ f.fullAt r = true

structure Laid (f : Forest) (root : Option Handle) (g : Option Nat) : Prop where
  ordered : f.Ordered
  directed : f.Directed
  sided : ∀ r : Nat, root = some r → r < f.length ∧ f.Sided r g

theorem facetBound {f : Forest} {h : Nat} {d} (found : f.facetAt h = some d) : h < f.length := by
  rcases Nat.lt_or_ge h f.length with there | beyond
  · exact there
  · simp [facetAt, identityAt, beyond] at found

@[simp] theorem shownFacet (f : Forest) (h i : Handle) :
    (f.shown h).facetAt i = f.facetAt i := by
  rw [facetAt, shownIdentity, facetAt]

theorem shownSided {f : Forest} {r : Nat} {g} (sided : f.Sided r g) (h : Handle) :
    (f.shown h).Sided r g :=
  ⟨by simpa using sided.top, by simpa using sided.edges, by simpa using sided.group⟩

theorem shownOrdered {f : Forest} (ordered : f.Ordered) (h : Handle) : (f.shown h).Ordered := by
  simpa [Ordered] using ordered

theorem shownDirected {f : Forest} (directed : f.Directed) (h : Handle) :
    (f.shown h).Directed := by
  simpa [Directed] using directed

section Planted

variable {f : Forest} {ns : List Node} {d : Bool}

theorem plantedFacet (alike : ∀ x ∈ Node.preorderAll ns, x.facet = .inheritance d) {i : Nat}
    (low : f.length ≤ i) (high : i < f.length + Node.sizeAll ns) :
    (f.plantAll ns).facetAt i = some (.inheritance d) := by
  obtain ⟨j, rfl⟩ := Nat.exists_eq_add_of_le low
  have inside : j < (Node.preorderAll ns).length := by
    rw [Node.preorderAllCount]
    omega
  have facet := alike _ (List.getElem_mem inside)
  rw [facetAt, plantedIdentity, List.getElem?_eq_getElem inside]
  exact congrArg some facet

theorem plantAllFacet {i : Nat} (old : i < f.length) :
    (f.plantAll ns).facetAt i = f.facetAt i := by
  rw [facetAt, plantAllIdentity ns old, facetAt]

theorem plantedRange {i child : Nat} (new : f.length ≤ i)
    (mem : child ∈ (f.plantAll ns).childrenAt i) :
    i < child ∧ child < f.length + Node.sizeAll ns := by
  obtain ⟨j, rfl⟩ := Nat.exists_eq_add_of_le new
  exact plantedChildren mem

theorem plantedEdge (alike : ∀ x ∈ Node.preorderAll ns, x.facet = .inheritance d)
    {i child : Nat} (new : f.length ≤ i) (mem : child ∈ (f.plantAll ns).childrenAt i) :
    (f.plantAll ns).facetAt child = (f.plantAll ns).facetAt i := by
  have range := plantedRange new mem
  rw [plantedFacet alike (by omega) range.2, plantedFacet alike new (by omega)]

theorem plantedTwiceEdge {ms : List Node} {e : Bool}
    (alike : ∀ x ∈ Node.preorderAll ns, x.facet = .inheritance d)
    (later : ∀ x ∈ Node.preorderAll ms, x.facet = .inheritance e)
    {i child : Nat} (new : f.length ≤ i)
    (mem : child ∈ ((f.plantAll ns).plantAll ms).childrenAt i) :
    ((f.plantAll ns).plantAll ms).facetAt child = ((f.plantAll ns).plantAll ms).facetAt i := by
  rcases Nat.lt_or_ge i (f.plantAll ns).length with early | late
  · rw [plantAllChildren ms early] at mem
    have range := plantedRange new mem
    have inside : child < (f.plantAll ns).length := by
      rw [plantAllLength]
      exact range.2
    rw [plantAllFacet inside, plantAllFacet early]
    exact plantedEdge alike new mem
  · exact plantedEdge later late mem

theorem plantAllOrdered (ordered : f.Ordered) : (f.plantAll ns).Ordered := by
  intro h child mem
  rw [plantAllLength]
  rcases Nat.lt_or_ge h f.length with old | new
  · rw [plantAllChildren ns old] at mem
    have before := ordered h child mem
    omega
  · exact plantedRange new mem

theorem plantAllDirected (directed : f.Directed)
    (alike : ∀ x ∈ Node.preorderAll ns, x.Directed) : (f.plantAll ns).Directed := by
  intro h facet found
  rcases Nat.lt_or_ge h f.length with old | new
  · rw [plantAllFacet old] at found
    exact directed h facet found
  · obtain ⟨j, rfl⟩ := Nat.exists_eq_add_of_le new
    rw [facetAt, plantedIdentity, Option.map_map, Option.map_eq_some_iff] at found
    obtain ⟨x, place, rfl⟩ := found
    exact alike x (List.mem_of_getElem? place)

theorem plantSided {n : Node} (faces : n.Faces true) : (f.plant n).Sided f.length none := by
  have alike : ∀ x ∈ Node.preorderAll [n], x.facet = .inheritance true :=
    Node.everywhereOne faces
  have room : 0 < Node.sizeAll [n] := by
    have own := n.sizeSelf
    simp only [Node.sizeAll]
    omega
  rw [plantOne]
  refine ⟨plantedFacet alike (Nat.le_refl _) (by omega), ?_, nofun⟩
  intro h child new mem _
  exact plantedEdge alike new mem

end Planted

theorem plantGrouped (f : Forest) (entry group : Node) :
    f.plant (entry.withGroup group) =
      ((f ++ [(entry.withGroup group).cell (f.length + 1)]).plantAll [group]).plantAll
        entry.children := by
  obtain ⟨s, facet, k, cs, y, r⟩ := entry
  simp [plant, plantAll, Node.cells, Node.cellsAll, Node.withGroup, Node.cell, Node.symbol,
    Node.facet, Node.numChildren, Node.children, Node.synthetic, Node.revealed, cellsCount,
    Nat.add_assoc]
  rw [Nat.add_comm 1 group.size]

section Grouped

variable {f : Forest} {entry group : Node}

theorem groupedRoot :
    (f.plant (entry.withGroup group))[f.length]? =
      some ((entry.withGroup group).cell (f.length + 1)) := by
  have place : f.length < f.length + 1 + Node.sizeAll [group] := by omega
  rw [plantGrouped, plantAllKeeps, plantAllKeeps]
  · simp
  · simp
  · simpa using place

theorem groupedGroup :
    (f.plant (entry.withGroup group)).identityAt (f.length + 1) = some group.identity := by
  rw [plantGrouped, plantAllIdentity]
  · have first := plantedIdentity (f ++ [(entry.withGroup group).cell (f.length + 1)]) [group] 0
    simpa [Node.preorderAll, Node.preorderSelf] using first
  · have own := group.sizeSelf
    simp [Node.sizeAll]
    omega

theorem groupedSided (faces : entry.Faces true) (full : entry.isMaterialized = true)
    (other : group.Faces false) (named : group.identity = groupIdentity) :
    (f.plant (entry.withGroup group)).Sided f.length (some (f.length + 1)) := by
  have rest : ∀ x ∈ Node.preorderAll entry.children, x.facet = .inheritance true :=
    Node.everywhereAll fun _ child => faces.child child
  have held : ∀ x ∈ Node.preorderAll [group], x.facet = .inheritance false :=
    Node.everywhereOne other
  have root : (f.plant (entry.withGroup group))[f.length]? =
      some ((entry.withGroup group).cell (f.length + 1)) := groupedRoot
  have top : (f.plant (entry.withGroup group)).facetAt f.length = some (.inheritance true) := by
    rw [facetAt, identityAt, root]
    exact congrArg some faces.self
  refine ⟨top, ?_, ?_⟩
  · intro h child low mem apart
    rcases Nat.eq_or_lt_of_le low with rfl | inner
    · rw [childrenOf root] at mem
      rcases List.mem_cons.mp mem with rfl | later
      -- the group is the one child that faces against its parent
      · exact absurd rfl apart
      · have range := placesRange later
        rw [top, plantGrouped]
        refine plantedFacet rest ?_ ?_
        · simp [Node.sizeAll]
          omega
        · simp [Node.sizeAll]
          omega
    · rw [plantGrouped] at mem ⊢
      refine plantedTwiceEdge held rest ?_ mem
      rw [List.length_append]
      exact inner
  · intro q same
    cases same
    refine ⟨named ▸ groupedGroup, ?_, ?_⟩
    · rw [childrenOf root]
      rfl
    · have count : (entry.children.length : Int) = entry.numChildren := by
        simpa [Node.isMaterialized] using full
      simp [fullAt, root, Cell.isMaterialized, Node.cell, placesCount, count]

end Grouped

theorem belowOrdered {f : Forest} (ordered : f.Ordered) {r h : Nat} (below : f.Below r h) :
    r ≤ h := by
  induction below with
  | self => exact Nat.le_refl r
  | child above mem ih => exact Nat.le_of_lt (Nat.lt_of_le_of_lt ih (ordered _ _ mem).1)

section Sided

variable {f : Forest} {r : Nat} {g : Option Nat}

theorem Sided.behind (sided : f.Sided r g) (ordered : f.Ordered) {q : Nat} (group : g = some q) :
    r ≤ q := by
  have first := (sided.group q group).2.1
  exact Nat.le_of_lt (ordered r q (List.mem_of_head? first)).1

theorem Sided.held (sided : f.Sided r g) (ordered : f.Ordered) {q h : Nat}
    (group : g = some q) (below : f.Below q h) : f.facetAt h = some (.inheritance false) := by
  have own : f.facetAt q = some (.inheritance false) := by
    rw [facetAt, (sided.group q group).1]
    rfl
  induction below with
  | self => exact own
  | @child h child above mem ih =>
    have low := Nat.le_trans (sided.behind ordered group) (belowOrdered ordered above)
    by_cases same : g = some child
    · have here : q = child := Option.some.inj (group.symm.trans same)
      exact here ▸ own
    · exact (sided.edges _ _ low mem same).trans ih

theorem Sided.facing (sided : f.Sided r g) (ordered : f.Ordered) {h : Nat}
    (below : f.Below r h) :
    ∃ d, f.facetAt h = some (.inheritance d) ∧
      (d = false ↔ ∃ q, g = some q ∧ f.Below q h) := by
  have either : f.facetAt h = some (.inheritance true) ∨ ∃ q, g = some q ∧ f.Below q h := by
    induction below with
    | self => exact .inl sided.top
    | @child h child above mem ih =>
      by_cases same : g = some child
      · exact .inr ⟨child, same, .self⟩
      · rcases ih with facing | ⟨q, group, inside⟩
        · exact .inl ((sided.edges _ _ (belowOrdered ordered above) mem same).trans facing)
        · exact .inr ⟨q, group, .child inside mem⟩
  by_cases inside : ∃ q, g = some q ∧ f.Below q h
  · obtain ⟨q, group, under⟩ := inside
    exact ⟨false, sided.held ordered group under, by simp; exact ⟨q, group, under⟩⟩
  · rcases either with facing | under
    · exact ⟨true, facing, by simpa using inside⟩
    · exact absurd under inside

end Sided

end Forest

end SymbolHierarchy
