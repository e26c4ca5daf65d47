import SymbolHierarchy.Node.Direction

/-! Trees of nodes, their tagged copies and the roots that two of them are joined in. A copy
differs in its directions alone; the copies of the nodes of a tree are the nodes of its copy,
in the same order. -/
namespace SymbolHierarchy.Node

theorem preorderSelf (n : Node) : n.preorder = n :: preorderAll n.children := by
  cases n
  rfl

theorem memPreorderAll {x : Node} {ns : List Node} :
    x ∈ preorderAll ns ↔ ∃ n ∈ ns, x ∈ n.preorder := by
  induction ns with
  | nil => simp [preorderAll]
  | cons n rest ih => simp [preorderAll, ih]

theorem selfInPreorder (n : Node) : n ∈ n.preorder := by
  rw [preorderSelf]
  exact List.mem_cons_self

theorem childInPreorder {n c x : Node} (child : c ∈ n.children) (below : x ∈ c.preorder) :
    x ∈ n.preorder := by
  rw [preorderSelf]
  exact List.mem_cons_of_mem _ (memPreorderAll.mpr ⟨c, child, below⟩)

theorem preorderCases {n x : Node} (mem : x ∈ n.preorder) :
    x = n ∨ ∃ c ∈ n.children, x ∈ c.preorder := by
  rw [preorderSelf] at mem
  rcases List.mem_cons.mp mem with same | below
  · exact .inl same
  · exact .inr (memPreorderAll.mp below)

theorem withDirectionAllMap (d : Bool) (ns : List Node) :
    withDirectionAll d ns = ns.map (withDirection d) := by
  induction ns with
  | nil => rfl
  | cons n rest ih => simp [withDirectionAll, ih]

section Copy

variable (d : Bool) (n : Node)

@[simp] theorem copySymbol : (n.withDirection d).symbol = n.symbol := by
  cases n; rfl

@[simp] theorem copyFacet : (n.withDirection d).facet = n.facet.tagged d := by
  cases n; rfl

@[simp] theorem copyCount : (n.withDirection d).numChildren = n.numChildren := by
  cases n; rfl

@[simp] theorem copyChildren :
    (n.withDirection d).children = n.children.map (withDirection d) := by
  cases n
  simp only [withDirection, children, withDirectionAllMap]

end Copy

section Group

variable (entry group : Node) (ns : List Node)

@[simp] theorem groupChildren : (baseGroup ns).children = ns.map (withDirection false) := by
  simp only [baseGroup, children, withDirectionAllMap]

@[simp] theorem groupCount : (baseGroup ns).numChildren = ns.length := rfl

@[simp] theorem groupMaterialized : (baseGroup ns).isMaterialized = true := by
  simp [isMaterialized]

@[simp] theorem withGroupSymbol : (entry.withGroup group).symbol = entry.symbol := rfl

@[simp] theorem withGroupChildren :
    (entry.withGroup group).children = group :: entry.children := rfl

@[simp] theorem withGroupCount : (entry.withGroup group).numChildren = entry.numChildren + 1 := rfl

end Group

mutual
theorem copyPreorder (d : Bool) (n : Node) :
    (n.withDirection d).preorder = n.preorder.map (withDirection d) := by
  cases n with
  | mk s f k cs y r => simp [withDirection, preorder, copyPreorderAll]
theorem copyPreorderAll (d : Bool) (ns : List Node) :
    preorderAll (withDirectionAll d ns) = (preorderAll ns).map (withDirection d) := by
  cases ns with
  | nil => simp [withDirectionAll, preorderAll]
  | cons n rest => simp [withDirectionAll, preorderAll, copyPreorder, copyPreorderAll]
end

theorem copyMem {d : Bool} {n x : Node} (mem : x ∈ (n.withDirection d).preorder) :
    ∃ y ∈ n.preorder, x = y.withDirection d := by
  rw [copyPreorder] at mem
  obtain ⟨y, old, same⟩ := List.mem_map.mp mem
  exact ⟨y, old, same.symm⟩

theorem mergeLeaf {entry base root : Node} (leaf : base.numChildren = 0)
    (ok : entry.merge base = .ok root) : root = entry := by
  simpa [merge, leaf] using ok.symm

theorem mergeGroup {entry base root : Node} (some : base.numChildren ≠ 0)
    (ok : entry.merge base = .ok root) :
    entry.isMaterialized = true ∧ root = entry.withGroup (baseGroup base.children) := by
  unfold merge at ok
  rw [if_neg (by simpa using some)] at ok
  split at ok
  · contradiction
  · rename_i full
    cases ok
    exact ⟨by simpa using full, rfl⟩

def Everywhere (P : Node → Prop) (n : Node) : Prop := ∀ x ∈ n.preorder, P x

section Everywhere

variable {P Q : Node → Prop} {n c entry group : Node} {ns : List Node}

theorem everywhereOf (own : P n) (below : ∀ c ∈ n.children, c.Everywhere P) :
    n.Everywhere P := by
  intro x mem
  rcases preorderCases mem with rfl | ⟨c, child, deeper⟩
  · exact own
  · exact below c child x deeper

theorem Everywhere.self (all : n.Everywhere P) : P n := all n (selfInPreorder n)

theorem Everywhere.child (all : n.Everywhere P) (child : c ∈ n.children) : c.Everywhere P :=
  fun x mem => all x (childInPreorder child mem)

theorem everywhereAll (each : ∀ n ∈ ns, n.Everywhere P) : ∀ x ∈ preorderAll ns, P x := by
  intro x mem
  obtain ⟨n, member, inside⟩ := memPreorderAll.mp mem
  exact each n member x inside

theorem everywhereOne (all : n.Everywhere P) : ∀ x ∈ preorderAll [n], P x :=
  everywhereAll fun _ mem => List.mem_singleton.mp mem ▸ all

theorem copyEverywhere {d : Bool} (tagged : ∀ x, P x → Q (x.withDirection d))
    (all : n.Everywhere P) : (n.withDirection d).Everywhere Q := by
  intro x mem
  obtain ⟨y, old, rfl⟩ := copyMem mem
  exact tagged y (all y old)

theorem groupEverywhere (own : P (baseGroup ns))
    (each : ∀ n ∈ ns, (n.withDirection false).Everywhere P) : (baseGroup ns).Everywhere P := by
  refine everywhereOf own ?_
  intro c child
  rw [groupChildren] at child
  obtain ⟨n, member, rfl⟩ := List.mem_map.mp child
  exact each n member

theorem withGroupEverywhere (own : P (entry.withGroup group)) (held : group.Everywhere P)
    (rest : entry.Everywhere P) : (entry.withGroup group).Everywhere P := by
  refine everywhereOf own ?_
  intro c child
  rw [withGroupChildren] at child
  rcases List.mem_cons.mp child with rfl | old
  · exact held
  · exact rest.child old

end Everywhere

end SymbolHierarchy.Node
