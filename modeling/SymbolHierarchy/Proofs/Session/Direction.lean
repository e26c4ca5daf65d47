import SymbolHierarchy.Proofs.Node.Merge
import SymbolHierarchy.Proofs.Session.Grounds
import SymbolHierarchy.Proofs.Session.Whole

/-! Which way the nodes of an inheritance hierarchy expand. Under a group everything asks for
supertypes, elsewhere under a root for subtypes, whatever the replies say and whenever the
nodes were fetched; and a node asks for its children in its own direction. -/
namespace SymbolHierarchy

namespace Session
open Node (Faces)

def reports (s : Session) : Input → Bool
  | .reply t r =>
    match s.pending? t, s.decode r with
    | some (.baseRoot _ _), .ok base => 0 < base.numChildren
    | _, _ => false
  | _ => false

def groupedAfter (s : Session) (grouped : Bool) : List Input → Bool
  | [] => grouped
  | i :: rest =>
    groupedAfter (s.step i).1
      (if (installed (s.step i).2).isEmpty then grouped else s.reports i) rest

/- What directs the nodes of an inheritance session, with the group of its root. No request
is under way for the children of a root with a group. -/
structure Steered (s : Session) (g : Option Nat) : Prop extends
    Forest.Laid s.forest s.root g where
  kind : s.kind = .inheritance
  calls : ∀ t n, (t, Pending.callRoot n) ∉ s.waiting
  entries : ∀ t n entry, (t, Pending.baseRoot n entry) ∈ s.waiting → entry.Faces true
  targets : ∀ (t : Ticket) (h : Nat) under, (t, Pending.expansion h under) ∈ s.waiting →
    h < s.forest.length ∧ (g ≠ none → s.root ≠ some h)

theorem decodeDirected {s : Session} (kind : s.kind = .inheritance) {r n}
    (read : s.decode r = .ok n) : n.Everywhere Node.Directed := by
  obtain ⟨v, _, wire⟩ := decodeWire read
  rw [kind] at wire
  exact Node.readsDirected (Node.wireReads wire)

theorem directionFacet {s : Session} (directed : s.forest.Directed) {h : Nat}
    (there : h < s.forest.length) : s.forest.facetAt h = some (.inheritance (s.directionOf h)) := by
  have found : s.forest[h]? = some s.forest[h] := List.getElem?_eq_getElem there
  have own : s.forest.facetAt h = some s.forest[h].facet := by
    rw [Forest.facetAt, Forest.identityAt, found]
    rfl
  obtain ⟨d, facet⟩ := directed h _ own
  rw [own, directionOf, found, facet]
  simp [facet, Facet.wantsDerived]

section Grown

variable {s : Session} {g : Option Nat} {h : Nat} {n : Node}

theorem newChildrenFace (kind : s.kind = .inheritance) (directed : n.Everywhere Node.Directed) :
    ∀ x ∈ Node.preorderAll (s.newChildren h n), x.facet = .inheritance (s.directionOf h) := by
  refine Node.everywhereAll ?_
  intro c mem
  rw [newChildren, kind, adopted, Node.withDirectionAllMap] at mem
  obtain ⟨own, child, rfl⟩ := List.mem_map.mp mem
  exact Node.copyFaces (directed.child child) _

theorem grownFacetOld {i : Nat} (old : i < s.forest.length) :
    (s.grown h n).facetAt i = s.forest.facetAt i := by
  rw [Forest.facetAt, grownIdentity old, Forest.facetAt]

theorem grownFacetNew (kind : s.kind = .inheritance) (directed : n.Everywhere Node.Directed)
    {i : Nat} (low : s.forest.length ≤ i)
    (high : i < s.forest.length + Node.sizeAll (s.newChildren h n)) :
    (s.grown h n).facetAt i = some (.inheritance (s.directionOf h)) := by
  rw [grown, Forest.facetAt, Forest.adoptIdentity]
  exact Forest.plantedFacet (newChildrenFace kind directed) low high

theorem grownEdge (steered : s.Steered g) (target : h < s.forest.length)
    (directed : n.Everywhere Node.Directed) {p child : Nat}
    (mem : child ∈ (s.grown h n).childrenAt p)
    (edge : p ≠ h → child ∈ s.forest.childrenAt p →
      s.forest.facetAt child = s.forest.facetAt p) :
    (s.grown h n).facetAt child = (s.grown h n).facetAt p := by
  -- the target, with new children only; an old node, with old ones; a node that came with it
  by_cases self : p = h
  · subst self
    rw [grownChildrenSelf target] at mem
    have range := placesRange mem
    rw [grownFacetNew steered.kind directed range.1 range.2, grownFacetOld target,
      directionFacet steered.directed target]
  · rcases Nat.lt_or_ge p s.forest.length with old | new
    · rw [grownChildrenOther old (Ne.symm self)] at mem
      have inside := steered.ordered p child mem
      rw [grownFacetOld inside.2, grownFacetOld old]
      exact edge self mem
    · obtain ⟨j, rfl⟩ := Nat.exists_eq_add_of_le new
      have range := grownChildrenNew target mem
      rw [grownFacetNew steered.kind directed (by omega) range.2,
        grownFacetNew steered.kind directed new (by omega)]

theorem grownSided (steered : s.Steered g) (target : h < s.forest.length)
    (apart : g ≠ none → s.root ≠ some h) (directed : n.Everywhere Node.Directed) {r : Nat}
    (active : s.root = some r) : (s.grown h n).Sided r g := by
  obtain ⟨there, sided⟩ := steered.sided r active
  refine ⟨?_, ?_, ?_⟩
  · rw [grownFacetOld there]
    exact sided.top
  · intro p child low mem other
    exact grownEdge steered target directed mem fun _ was => sided.edges p child low was other
  · intro q same
    obtain ⟨named, first, full⟩ := sided.group q same
    have old : q < s.forest.length :=
      Forest.facetBound (congrArg (Option.map Identity.facet) named)
    have elsewhere : h ≠ r := by
      intro here
      exact apart (by simp [same]) (here ▸ active)
    rw [grownIdentity old, grownChildrenOther there elsewhere, grownFullOther there elsewhere]
    exact ⟨named, first, full⟩

theorem grownDirected (steered : s.Steered g) (directed : n.Everywhere Node.Directed) :
    (s.grown h n).Directed := by
  intro i facet found
  rw [grown, Forest.facetAt, Forest.adoptIdentity] at found
  refine Forest.plantAllDirected steered.directed ?_ i facet found
  intro x mem
  exact ⟨_, newChildrenFace steered.kind directed x mem⟩

end Grown

theorem asksLaid {s : Session} {g i h f} (steered : s.Steered g) (asks : Asks s i h f) :
    Forest.Laid f s.root g ∧ f.length = s.forest.length := by
  cases asks with
  | expanding => exact ⟨steered.toLaid, rfl⟩
  | viewing =>
    refine ⟨⟨Forest.shownOrdered steered.ordered h, Forest.shownDirected steered.directed h, ?_⟩,
      Forest.shownLength _ _⟩
    intro r active
    obtain ⟨there, sided⟩ := steered.sided r active
    exact ⟨by simpa using there, Forest.shownSided sided h⟩

theorem fetchTarget {s : Session} {g i w under} {h : Nat} (steered : s.Steered g)
    (begins : Begins s i w) (waits : w.2 = .expansion h under) :
    h < s.forest.length ∧ (g ≠ none → s.root ≠ some h) := by
  obtain ⟨f, c, asks, found, missing⟩ := beginsFetch begins waits
  obtain ⟨laid, same⟩ := asksLaid steered asks
  refine ⟨same ▸ (List.getElem?_eq_some_iff.mp found).1, ?_⟩
  intro grouped active
  obtain ⟨q, some⟩ := Option.ne_none_iff_exists'.mp grouped
  have full := ((laid.sided h active).2.group q some).2.2
  simp [Forest.fullAt, found, missing] at full

theorem plantLaid {s : Session} {g g'} {n : Node} (steered : s.Steered g)
    (directed : n.Everywhere Node.Directed) (sided : (s.forest.plant n).Sided s.forest.length g') :
    Forest.Laid (s.forest.plant n) (some s.forest.length) g' := by
  refine ⟨?_, ?_, ?_⟩
  · rw [Forest.plantOne]
    exact Forest.plantAllOrdered steered.ordered
  · rw [Forest.plantOne]
    exact Forest.plantAllDirected steered.directed (Node.everywhereOne directed)
  · intro r active
    cases active
    exact ⟨Forest.facetBound sided.top, sided⟩

theorem installLaid {s : Session} {g t r p n} (steered : s.Steered g)
    (waits : s.pending? t = some p) (built : Builds s r p s.generation n) :
    ∃ g' : Option Nat, g'.isSome = s.reports (.reply t r) ∧
      Forest.Laid (s.forest.plant n) (some s.forest.length) g' := by
  cases built with
  | call => exact absurd (pendingWaits waits) (steered.calls _ _)
  | @merged _ entry base n read joined =>
    have faces := steered.entries _ _ _ (pendingWaits waits)
    have bases := decodeDirected steered.kind read
    have low := (decodeWhole read).self.1
    by_cases leaf : base.numChildren = 0
    · have same := Node.mergeLeaf leaf joined
      subst same
      refine ⟨none, by simp [reports, waits, read, leaf], ?_⟩
      exact plantLaid steered (Node.facesDirected faces) (Forest.plantSided faces)
    · obtain ⟨full, rfl⟩ := Node.mergeGroup leaf joined
      have held : (Node.baseGroup base.children).Faces false :=
        Node.groupFaces fun c child => bases.child child
      have positive : 0 < base.numChildren := by omega
      refine ⟨some (s.forest.length + 1), by simp [reports, waits, read, positive], ?_⟩
      refine plantLaid steered ?_ (Forest.groupedSided faces full held rfl)
      exact Node.withGroupEverywhere ⟨true, faces.self⟩ (Node.facesDirected held)
        (Node.facesDirected faces)

theorem turnsLaid {s : Session} {g i f root ins} (steered : s.Steered g)
    (turns : Turns s i f root ins) :
    ∃ g' : Option Nat, g'.isSome = (if ins.isEmpty then g.isSome else s.reports i) ∧
      Forest.Laid f root g' ∧ s.forest.length ≤ f.length ∧
      ∀ h : Nat, h < s.forest.length → (g ≠ none → s.root ≠ some h) →
        g' ≠ none → root ≠ some h := by
  cases turns with
  | rests => exact ⟨g, rfl, steered.toLaid, Nat.le_refl _, fun _ _ apart => apart⟩
  | closes =>
    exact ⟨g, rfl, ⟨steered.ordered, steered.directed, nofun⟩, Nat.le_refl _, nofun⟩
  | looks asks =>
    obtain ⟨laid, same⟩ := asksLaid steered asks
    exact ⟨g, rfl, laid, Nat.le_of_eq same.symm, fun _ _ apart => apart⟩
  | installs waits built =>
    obtain ⟨g', same, laid⟩ := installLaid steered waits built
    refine ⟨g', by simpa using same, laid, ?_, ?_⟩
    · simp [Forest.plantOne]
    · intro h old _ _ here
      exact Nat.ne_of_lt old (Option.some.inj here).symm
  | @grows _ _ h _ n waits read =>
    have directed := decodeDirected steered.kind read
    obtain ⟨target, apart⟩ := steered.targets _ _ _ (pendingWaits waits)
    refine ⟨g, rfl, ⟨grownOrdered steered.ordered target, grownDirected steered directed, ?_⟩, ?_,
      fun _ _ apart => apart⟩
    · intro r active
      refine ⟨?_, grownSided steered target apart directed active⟩
      have there := (steered.sided r active).1
      rw [grownLength]
      omega
    · rw [grownLength]
      exact Nat.le_add_right _ _

theorem beginsNoCall {s : Session} {g i w} (steered : s.Steered g) (begins : Begins s i w)
    (n : Nat) : w.2 ≠ .callRoot n := by
  cases begins with
  | opening p => simp [steered.kind, Kind.firstWait]
  | entry => simp
  | fetch => simp

theorem movesSteered {s : Session} {g i s' es} (steered : s.Steered g)
    (moves : Moves s i s' es) :
    ∃ g' : Option Nat,
      g'.isSome = (if (installed es).isEmpty then g.isSome else s.reports i) ∧
      s'.Steered g' := by
  obtain ⟨g', same, laid, grows, apart⟩ := turnsLaid steered (movesTurns moves)
  refine ⟨g', same, ⟨laid, (movesKind moves).trans steered.kind, ?_, ?_, ?_⟩⟩
  · intro t n mem
    rcases movesWaiting moves mem with old | new
    · exact steered.calls t n old
    · exact beginsNoCall steered new n rfl
  · intro t n entry mem
    rcases movesWaiting moves mem with old | new
    · exact steered.entries t n entry old
    · obtain ⟨_, r, m, _, read, rfl⟩ := beginsEntry new rfl
      exact Node.copyFaces (decodeDirected steered.kind read) true
  -- a target stood there when it was asked for, so no root planted since is one
  · intro t h under mem
    have before : h < s.forest.length ∧ (g ≠ none → s.root ≠ some h) := by
      rcases movesWaiting moves mem with old | new
      · exact steered.targets t h under old
      · exact fetchTarget steered new rfl
    exact ⟨Nat.lt_of_lt_of_le before.1 grows, apart h before.1 before.2⟩

theorem afterSteered {s : Session} {g : Option Nat} (steered : s.Steered g)
    (inputs : List Input) :
    ∃ g' : Option Nat, g'.isSome = s.groupedAfter g.isSome inputs ∧
      (s.after inputs).Steered g' := by
  induction inputs generalizing s g with
  | nil => exact ⟨g, rfl, steered⟩
  | cons i rest ih =>
    obtain ⟨g', same, next⟩ := movesSteered steered (stepMoves s i)
    rw [afterCons, groupedAfter, ← same]
    exact ih next

theorem freshSteered : (fresh .inheritance).Steered none where
  ordered := by simp [Forest.Ordered, fresh, Forest.childrenAt]
  directed := by simp [Forest.Directed, fresh, Forest.facetAt, Forest.identityAt]
  sided := nofun
  kind := rfl
  calls := by simp [fresh]
  entries := by simp [fresh]
  targets := by simp [fresh]

theorem movesRequest {s i s' es h t params} (moves : Moves s i s' es)
    (asking : i = .expand h ∨ i = .children (some h)) (mem : Effect.request t params ∈ es) :
    ∃ c, s.forest.identityAt h = some c ∧
      s.kind.expansionParams c.symbol c.facet = .ok params := by
  cases moves with
  | fetches asks found missing known =>
    have same : Effect.request t params = .request _ _ := List.mem_singleton.mp mem
    cases same
    cases asks with
    | expanding =>
      rcases asking with same | same
      · cases same
        exact ⟨_, by rw [Forest.identityAt, found]; rfl, known⟩
      · cases same
    | viewing =>
      rcases asking with same | same
      · cases same
      · cases same
        exact ⟨_, by rw [← Forest.shownIdentity, Forest.identityAt, found]; rfl, known⟩
  | closes => simp at asking
  | starts => simp at asking
  | enters => simp at asking
  | grows => simp at asking
  | _ => simp at mem

theorem inheritanceAsks {symbol : Symbol} {d : Bool} {params : Json}
    (known : Kind.inheritance.expansionParams symbol (.inheritance d) = .ok params) :
    params.get? "derived" = some (.bool d) := by
  cases known
  obtain ⟨id, name, kind, location⟩ := symbol
  cases id <;> cases kind <;> rfl

def AsksIn (s : Session) (h : Handle) (d : Bool) : Prop :=
  ∀ i t params, i = .expand h ∨ i = .children (some h) → .request t params ∈ (s.step i).2 →
    params.get? "derived" = some (.bool d)

theorem steeredAsks {s : Session} {g h d} (steered : s.Steered g)
    (facing : s.forest.facetAt h = some (.inheritance d)) : s.AsksIn h d := by
  intro i t params asking mem
  obtain ⟨c, own, known⟩ := movesRequest (stepMoves s i) asking mem
  have facet : c.facet = .inheritance d := by
    rw [Forest.facetAt, own] at facing
    exact Option.some.inj facing
  rw [steered.kind, facet] at known
  exact inheritanceAsks known

/- A root with what stands below it, and the group that it was built with, if any. -/
structure Directs (s : Session) (r : Handle) (group : Option Handle) : Prop where
  first : ∀ q, group = some q →
    s.forest.identityAt q = some Forest.groupIdentity ∧ (s.forest.childrenAt r).head? = some q
  sides : ∀ h, s.forest.Below r h → ∃ d, s.forest.facetAt h = some (.inheritance d) ∧
    (d = false ↔ ∃ q, group = some q ∧ s.forest.Below q h) ∧ s.AsksIn h d

/- Whatever the replies say and however they overtake each other. -/
theorem sidesKept (inputs : List Input) {r : Handle}
    (active : ((fresh .inheritance).after inputs).root = some r) :
    ∃ group : Option Handle,
      group.isSome = (fresh .inheritance).groupedAfter false inputs ∧
      ((fresh .inheritance).after inputs).Directs r group := by
  obtain ⟨g, same, steered⟩ := afterSteered freshSteered inputs
  obtain ⟨_, sided⟩ := steered.sided r active
  refine ⟨g, same, ?_, ?_⟩
  · intro q some
    obtain ⟨named, first, _⟩ := sided.group q some
    exact ⟨named, first⟩
  · intro h below
    obtain ⟨d, facing, side⟩ := sided.facing steered.ordered below
    exact ⟨d, facing, side, steeredAsks steered facing⟩

def bothSides : List Input :=
  [.open ⟨"file:///p.cpp", ⟨0, 0⟩⟩,
    .reply 0 (.ok (Node.typeWire "A" 1 [Node.typeWire "C" 3 []])),
    .reply 0 (.ok (Node.typeWire "A" 1 [Node.typeWire "B" 1 []])),
    .expand 2,
    .reply 1 (.ok (Node.typeWire "B" 1 [Node.typeWire "D" 2 []]))]

theorem sidesKeptGrouped :
    ((fresh .inheritance).after bothSides).root = some 0 ∧
      ∃ group : Option Handle, group.isSome = true ∧
        ((fresh .inheritance).after bothSides).Directs 0 group :=
  ⟨rfl, sidesKept bothSides rfl⟩

end Session
end SymbolHierarchy
