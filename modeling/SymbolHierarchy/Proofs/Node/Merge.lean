import SymbolHierarchy.Proofs.Node.Whole

/-! What becomes of the two views of a type when they are joined in one root. All that the
replies carry is kept, in order and once. A base view that reports supertypes without
carrying them is joined all the same, as a group that holds none and is never asked for. -/
namespace SymbolHierarchy.Node

def IsGroup (n : Node) : Prop :=
  n.symbol = ⟨none, groupName, none, none⟩ ∧ n.facet = .inheritance false ∧ n.synthetic = true

/- `groups` stand in front of the children of the derived view: one group of all that the
base view carries if it reports supertypes, none otherwise. -/
structure Joined (derived base root : Node) (groups : List Node) : Prop where
  symbol : root.symbol = derived.symbol
  children : root.children = groups ++ derived.children.map (withDirection true)
  count : root.numChildren = derived.numChildren + groups.length
  present : groups.length = if 0 < base.numChildren then 1 else 0
  group : ∀ g ∈ groups, g.IsGroup ∧ g.children = base.children.map (withDirection false) ∧
    g.isMaterialized = true
  others : ∀ c ∈ derived.children, ¬ (c.withDirection true).IsGroup

def Lossless (derived base root : Node) : Prop :=
  ∃ groups, Joined derived base root groups ∧
    ∀ g ∈ groups, (g.children.length : Int) = base.numChildren ∧ g.numChildren = base.numChildren

theorem derivedNoGroup (n : Node) : ¬ (n.withDirection true).IsGroup := by
  rintro ⟨_, facet, _⟩
  cases h : n.facet <;> simp [h, Facet.tagged] at facet

theorem mergeJoined {derived base root : Node} (whole : base.Whole)
    (ok : (derived.withDirection true).merge base = .ok root) :
    ∃ groups, Joined derived base root groups := by
  have others : ∀ c ∈ derived.children, ¬ (c.withDirection true).IsGroup :=
    fun c _ => derivedNoGroup c
  by_cases leaf : base.numChildren = 0
  · have same := mergeLeaf leaf ok
    subst same
    exact ⟨[], by simp, by simp, by simp, by simp [leaf], by simp, others⟩
  · obtain ⟨_, rfl⟩ := mergeGroup leaf ok
    have positive : 0 < base.numChildren := by
      have := whole.1
      omega
    refine ⟨[baseGroup base.children], ?_, ?_, ?_, ?_, ?_, others⟩
    · simp
    · simp
    · simp
    · simp [positive]
    · intro g mem
      cases List.mem_singleton.mp mem
      exact ⟨⟨rfl, rfl, rfl⟩, groupChildren _, groupMaterialized _⟩

theorem materializedOfLeaf {n : Node} (whole : n.Whole) (leaf : n.numChildren = 0) :
    n.isMaterialized = true := by
  rcases whole.2 with none | all
  · simp [isMaterialized, none, leaf]
  · simp [isMaterialized, all]

theorem losslessMaterialized {derived base root : Node} (whole : base.Whole)
    (kept : Lossless derived base root) : base.isMaterialized = true := by
  obtain ⟨groups, joined, counts⟩ := kept
  by_cases leaf : base.numChildren = 0
  · exact materializedOfLeaf whole leaf
  · have positive : 0 < base.numChildren := by
      have := whole.1
      omega
    have present := joined.present
    rw [if_pos positive] at present
    obtain ⟨g, rfl⟩ := List.length_eq_one_iff.mp present
    have held := (joined.group g List.mem_cons_self).2.1
    have count := (counts g List.mem_cons_self).1
    simpa [isMaterialized, held] using count

theorem joinedLossless {derived base root : Node} {groups : List Node}
    (joined : Joined derived base root groups) (full : base.isMaterialized = true) :
    Lossless derived base root := by
  refine ⟨groups, joined, ?_⟩
  intro g mem
  obtain ⟨_, held, own⟩ := joined.group g mem
  have carried : (base.children.length : Int) = base.numChildren := by
    simpa [isMaterialized] using full
  have reported : (g.children.length : Int) = g.numChildren := by
    simpa [isMaterialized] using own
  rw [held, List.length_map] at reported
  exact ⟨by rw [held, List.length_map, carried], by omega⟩

theorem joinedReaches {derived base root : Node} {groups : List Node} (whole : base.Whole)
    (joined : Joined derived base root groups) {c x : Node} (child : c ∈ base.children)
    (below : x ∈ c.preorder) : x.withDirection false ∈ root.preorder := by
  have positive : 0 < base.numChildren := by
    have some := List.length_pos_of_mem child
    rcases whole.2 with none | all <;> omega
  have present := joined.present
  rw [if_pos positive] at present
  obtain ⟨g, rfl⟩ := List.length_eq_one_iff.mp present
  have held := (joined.group g List.mem_cons_self).2.1
  have own : g ∈ root.children := by simp [joined.children]
  have copy : c.withDirection false ∈ g.children := held ▸ List.mem_map_of_mem child
  refine childInPreorder own (childInPreorder copy ?_)
  rw [copyPreorder]
  exact List.mem_map_of_mem below

/- Supertypes are lost exactly where the base view does not carry what it reports: the group
is then taken for complete, and no later step asks for its children. -/
theorem losslessExactly {w : Json} {derived base root : Node}
    (read : ofWire .inheritance w = .ok base)
    (ok : (derived.withDirection true).merge base = .ok root) :
    (∃ groups, Joined derived base root groups) ∧
      (Lossless derived base root ↔ base.isMaterialized = true) ∧
      ∀ c ∈ base.children, ∀ x ∈ c.preorder, x.withDirection false ∈ root.preorder := by
  have whole := (readsWhole (wireReads read)).self
  obtain ⟨groups, joined⟩ := mergeJoined whole ok
  refine ⟨⟨groups, joined⟩, ⟨losslessMaterialized whole, joinedLossless joined⟩, ?_⟩
  intro c child x below
  exact joinedReaches whole joined child below

def typeWire (name : String) (count : Int) (children : List Json) : Json :=
  .object [("id", .int 1), ("name", .text name), ("numChildren", .int count),
    ("children", .list children)]

def typeAlone (name : String) (count : Int) : Node :=
  .mk ⟨some (.int 1), name, none, none⟩ (.inheritance true) count [] false false

theorem losslessOneSupertype :
    Lossless (typeAlone "A" 0)
        (.mk ⟨some (.int 1), "A", none, none⟩ (.inheritance true) 1 [typeAlone "B" 0] false false)
        ((typeAlone "A" 0).withDirection true |>.withGroup (baseGroup [typeAlone "B" 0])) :=
  have read : ofWire .inheritance (typeWire "A" 1 [typeWire "B" 0 []]) = .ok
      (.mk ⟨some (.int 1), "A", none, none⟩ (.inheritance true) 1 [typeAlone "B" 0] false
        false) := rfl
  (losslessExactly read rfl).2.1.mpr rfl

/- Two supertypes are reported and none is carried: the group holds none. -/
theorem supertypesLost :
    ¬ ∀ (v w : Json) (derived base root : Node), ofWire .inheritance v = .ok derived →
        ofWire .inheritance w = .ok base → (derived.withDirection true).merge base = .ok root →
        Lossless derived base root := by
  intro lossless
  have first : ofWire .inheritance (typeWire "A" 0 []) = .ok (typeAlone "A" 0) := rfl
  have second : ofWire .inheritance (typeWire "A" 2 []) = .ok (typeAlone "A" 2) := rfl
  have kept := lossless _ _ _ _ _ first second rfl
  have full := losslessMaterialized (readsWhole (wireReads second)).self kept
  exact absurd full (by decide)

end SymbolHierarchy.Node
