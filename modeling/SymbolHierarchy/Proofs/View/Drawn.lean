import SymbolHierarchy.Proofs.Session.Groups

/-! What the state that a node is drawn in tells. It is read off the counts of the node, and an
expansion goes by what is at hand; as a node has all of its children or none, the two agree. A
group is drawn by whether it was revealed. -/
namespace SymbolHierarchy

theorem Face.stateNone (n : Face) : n.collapseState = .none ↔ n.numChildren = 0 := by
  unfold collapseState
  by_cases leaf : n.numChildren = 0
  · simp [leaf]
  · cases group : n.synthetic <;> cases told : n.revealed <;> cases all : n.isExpanded <;>
      simp [leaf]

namespace Session

inductive Foretold (s : Session) (c : Cell) : CollapseState → List Effect → Prop
  | leaf (none : c.numChildren = 0) : Foretold s c .none [.finished s.issued (.listed (.ok []))]
  | held {h : Handle} {hs : List Handle} (some : c.numChildren ≠ 0) :
      Foretold s c .expanded [.finished s.issued (.listed (.ok (h :: hs)))]
  | asks {params : Json} (some : c.numChildren ≠ 0) :
      Foretold s c .collapsed [.request s.issued params]

theorem realForetold {s : Session} {h : Handle} {c : Cell} {params : Json}
    (found : s.forest[h]? = some c) (real : c.synthetic = false) (whole : c.Whole)
    (known : s.kind.expansionParams c.symbol c.facet = .ok params) :
    Foretold s c c.face.collapseState (s.step (.expand h)).2 := by
  obtain ⟨low, all⟩ := whole
  cases full : c.isMaterialized with
  | true =>
    have count : (c.children.length : Int) = c.numChildren := by
      simpa [Cell.isMaterialized] using full
    rw [(fullCell found full).again]
    cases held : c.children with
    | nil =>
      have none : c.numChildren = 0 := by simpa [held] using count.symm
      rw [(Face.stateNone c.face).mpr none]
      exact .leaf none
    | cons first more =>
      have some : c.numChildren ≠ 0 := by
        rw [held, List.length_cons] at count
        omega
      have opened : c.face.collapseState = .expanded := by
        have positive : 0 < c.numChildren := by omega
        simp [Face.collapseState, Face.isExpanded, Face.isExpandable, Cell.face, some, real,
          positive, count]
      rw [opened]
      exact .held some
  | false =>
    have apart : (c.children.length : Int) ≠ c.numChildren := by
      simpa [Cell.isMaterialized] using full
    have none : c.children.length = 0 := all.resolve_right apart
    have some : c.numChildren ≠ 0 := by omega
    have closed : c.face.collapseState = .collapsed := by
      simp [Face.collapseState, Face.isExpanded, Cell.face, some, real, apart]
    have hollow := hollowCell found (List.length_eq_zero_iff.mp none) full known
    obtain ⟨sent, asks⟩ := hollow.asks
    rw [closed, asks]
    exact .asks some

structure Predicts (s : Session) (h : Handle) (c : Cell) : Prop where
  leaf : c.face.collapseState = .none ↔ c.numChildren = 0
  closed : c.face.collapseState = .collapsed ↔
    ∃ t params, Effect.request t params ∈ (s.step (.expand h)).2
  opened : c.face.collapseState = .expanded ↔
    ∃ x hs, (s.step (.expand h)).2 = [.finished s.issued (.listed (.ok (x :: hs)))]

theorem foretoldPredicts {s : Session} {h : Handle} {c : Cell}
    (foretold : Foretold s c c.face.collapseState (s.step (.expand h)).2) : s.Predicts h c := by
  generalize state : c.face.collapseState = drawn, does : (s.step (.expand h)).2 = es at foretold
  have none := c.face.stateNone
  rw [state] at none
  cases foretold with
  | leaf | held | asks => exact ⟨state ▸ none, by simp [state, does], by simp [state, does]⟩

theorem itemDrawn {n : Face} {icons : IconTheme} {item : Item} (low : 0 ≤ n.numChildren)
    (made : n.item icons = .ok item) :
    item.state = n.collapseState ∧ (item.hasChildren = true ↔ item.state ≠ .none) := by
  cases label : n.label with
  | error e => simp [Face.item, label, bind, Except.bind] at made
  | ok text =>
    have same : (⟨text, n.collapseState, n.icon icons, n.symbol.id, n.isExpandable⟩ : Item) =
        item := by
      simpa [Face.item, label, bind, Except.bind] using made
    subst same
    refine ⟨rfl, ?_⟩
    simp only [Face.isExpandable, decide_eq_true_eq, ne_eq, Face.stateNone]
    omega

structure GroupDrawn (s : Session) (r g : Handle) (rest : List Input) : Prop where
  named : (s.after rest).forest.identityAt g = some Forest.groupIdentity
  quiet : ∀ i t params, i = .expand g ∨ i = .children (some g) →
    Effect.request t params ∉ ((s.after rest).step i).2
  count : (s.after rest).forest[g]?.map Cell.numChildren = s.forest[g]?.map Cell.numChildren
  closed : ∀ c, (s.after rest).forest[g]? = some c → c.numChildren ≠ 0 →
    (c.face.collapseState = .collapsed ↔ ¬ s.Viewed g (· ≠ none) rest)
  opened : ∀ c, (s.after rest).forest[g]? = some c → c.numChildren ≠ 0 →
    (c.face.collapseState = .expanded ↔ s.Viewed g (· ≠ none) rest)
  current : (s.after rest).root = some r →
    (s.Viewed g (· ≠ none) rest ↔ s.Viewed g (· = some r) rest)

section Group

variable {s : Session} {g : Handle} {c : Cell}

theorem groupState (group : c.synthetic = true) (some : c.numChildren ≠ 0) :
    c.face.collapseState = if c.revealed then .expanded else .collapsed := by
  simp [Face.collapseState, Cell.face, group, some]

theorem holdsQuiet (holds : s.Holds g c) {i : Input}
    (asking : i = .expand g ∨ i = .children (some g)) (t : Ticket) (params : Json) :
    Effect.request t params ∉ (s.step i).2 := by
  rcases asking with rfl | rfl
  · simp [(fullCell holds.found holds.full).again]
  · cases active : s.root with
    | none => simp [step, children, issue, active]
    | some top => simp [viewHeld active holds.found holds.full]

end Group

/- The states of all nodes and items at any time, and of a group ever since it was made. -/
structure Foretells (k : Kind) : Prop where
  tree : ∀ inputs r h, ((fresh k).after inputs).root = some r →
    ((fresh k).after inputs).forest.Below r h → ∃ c, ((fresh k).after inputs).forest[h]? = some c
  nodes : ∀ inputs h c, ((fresh k).after inputs).forest[h]? = some c → c.synthetic = false →
    ((fresh k).after inputs).Predicts h c
  items : ∀ inputs (h : Handle) (c : Cell) icons (item : Item),
    ((fresh k).after inputs).forest[h]? = some c → c.face.item icons = .ok item →
    item.state = c.face.collapseState ∧ (item.hasChildren = true ↔ item.state ≠ .none)
  groups : ∀ before i r g rest, ((fresh k).after before).Groups i r g →
    ((fresh k).after (before ++ [i])).GroupDrawn r g rest

theorem groupsDrawn {s : Session} {i : Input} {r g : Handle} (grounded : s.Grounded)
    (groups : s.Groups i r g) (rest : List Input) : (s.step i).1.GroupDrawn r g rest := by
  obtain ⟨c, holds, unseen, named, there⟩ := groupsHolds grounded groups
  obtain ⟨own, kept, same, count, revealed⟩ := afterGroup holds unseen rest
  have state : own.numChildren ≠ 0 →
      own.face.collapseState = if own.revealed then .expanded else .collapsed :=
    groupState kept.group
  refine ⟨?_, fun j t params asking => holdsQuiet kept asking t params, ?_, ?_, ?_,
    viewedCurrent there⟩
  · rw [Forest.identityAt, kept.found, Option.map_some, same, named]
  · rw [kept.found, holds.found, Option.map_some, Option.map_some, count]
  · intro c' found some
    cases kept.found.symm.trans found
    rw [state some, ← revealed]
    cases own.revealed <;> simp
  · intro c' found some
    cases kept.found.symm.trans found
    rw [state some, ← revealed]
    cases own.revealed <;> simp

theorem afterWhole (k : Kind) (inputs : List Input) {h : Handle} {c : Cell}
    (found : ((fresh k).after inputs).forest[h]? = some c) : c.Whole :=
  (afterKeeps movesWhole (freshWhole k) inputs).forest c (List.mem_of_getElem? found)

theorem statesForetell (k : Kind) : Foretells k where
  tree inputs r h active below := by
    have grounded := afterGrounded k inputs
    have there := Forest.belowInside grounded.ordered (grounded.root r active) below
    exact ⟨_, List.getElem?_eq_getElem there⟩
  nodes inputs h c found real := by
    obtain ⟨params, known⟩ := expansionKnown k inputs found
    have whole := afterWhole k inputs found
    exact foretoldPredicts (realForetold found real whole known)
  items inputs h c icons item found made := by
    have low : 0 ≤ c.face.numChildren := (afterWhole k inputs found).1
    exact itemDrawn low made
  groups before i r g rest groups := by
    rw [afterSnoc]
    exact groupsDrawn (afterGrounded k before) groups rest

def opensType : List Input :=
  [.open ⟨"file:///p.cpp", ⟨0, 0⟩⟩, .reply 0 (.ok (Node.typeWire "A" 0 []))]

def joinsSupertype : Input := .reply 0 (.ok (Node.typeWire "A" 1 [Node.typeWire "B" 0 []]))

def opensAnother : List Input :=
  [.open ⟨"file:///p.cpp", ⟨0, 0⟩⟩, .reply 1 (.ok (Node.typeWire "C" 0 [])),
    .reply 1 (.ok (Node.typeWire "C" 0 []))]

/- The group of the first root is drawn open, and was not asked for under that root. -/
theorem revealedUnderAnother :
    ¬ ∀ k before i r g rest, ((fresh k).after before).Groups i r g →
      ∀ c, ((fresh k).after (before ++ i :: rest)).forest[g]? = some c → c.numChildren ≠ 0 →
        (c.face.collapseState = .expanded ↔
          ((fresh k).after (before ++ [i])).Viewed g (· = some r) rest) := by
  intro claimed
  have groups : ((fresh .inheritance).after opensType).Groups joinsSupertype 0 1 :=
    ⟨⟨0, rfl⟩, rfl, rfl⟩
  have told := claimed _ _ _ _ _ (opensAnother ++ [.children (some 1)]) groups _ rfl (by decide)
  rcases viewedCons.mp (told.mp rfl) with ⟨opens, _⟩ | later
  · cases opens
  · rcases viewedCons.mp later with ⟨answers, _⟩ | later
    · cases answers
    · rcases viewedCons.mp later with ⟨answers, _⟩ | later
      · cases answers
      · rcases viewedCons.mp later with ⟨_, under⟩ | none
        · cases under
        · exact viewedNil none

end Session
end SymbolHierarchy
