import SymbolHierarchy.Proofs.Node.Origins
import SymbolHierarchy.Proofs.Session.Direction
import SymbolHierarchy.Proofs.Session.Grounds

/-! What the requests of a session are about. The first request of an opening names a position, any
other one a node by the id that a reply stated for it; the group of supertypes is complete from the
start and never asked for. An id that was stated to be null is left out like any other null, and
the request then names nothing. -/
namespace SymbolHierarchy

structure Json.ByPosition (params : Json) (p : DocumentPosition) : Prop where
  document : params.get? "textDocument" = some (.object p.documentMembers)
  position : params.get? "position" = some p.position.wire
  id : params.get? "id" = none

structure Json.ById (params : Json) (i : Option NodeId) : Prop where
  document : params.get? "textDocument" = none
  position : params.get? "position" = none
  id : params.get? "id" = i.map fun i => .scalar i.scalar

def Json.NamesOne (params : Json) : Prop :=
  (params.get? "position").isSome ≠ (params.get? "id").isSome

section Named

variable {params : Json}

theorem positionNames {p : DocumentPosition} (named : params.ByPosition p) : params.NamesOne := by
  simp [Json.NamesOne, named.position, named.id]

theorem idNames {i : Option NodeId} (named : params.ById i) : params.NamesOne ↔ i ≠ none := by
  cases i <;> simp [Json.NamesOne, named.position, named.id]

theorem rootNamed (k : Kind) (p : DocumentPosition) : (k.rootParams p).ByPosition p := by
  cases k <;> exact ⟨rfl, rfl, rfl⟩

theorem baseNamed (s : Symbol) : (baseParams s).ById s.id := by
  obtain ⟨id, name, kind, location⟩ := s
  cases id <;> cases kind <;> exact ⟨rfl, rfl, rfl⟩

theorem expansionNamed {k : Kind} {s : Symbol} {f : Facet}
    (known : k.expansionParams s f = .ok params) : params.ById s.id := by
  obtain ⟨id, name, kind, location⟩ := s
  cases k with
  | call =>
    cases known
    cases id <;> exact ⟨rfl, rfl, rfl⟩
  | inheritance =>
    cases f with
    | inheritance d =>
      cases known
      cases id <;> cases kind <;> exact ⟨rfl, rfl, rfl⟩
    | plain => cases known
    | call => cases known

end Named

namespace Forest

variable {f : Forest} {ns : List Node} {R : Option NodeId → Prop}

theorem plantedFull (f : Forest) (ns : List Node) (i : Nat) :
    (f.plantAll ns).fullAt (f.length + i) =
      ((Node.preorderAll ns)[i]?.map Node.isMaterialized).getD false := by
  rw [fullAt, plantedAt, Option.map_map]
  congr 2
  funext x
  simp [Cell.isMaterialized, Node.isMaterialized, Node.cell, placesCount]

theorem plantedKnown (known : ∀ x ∈ Node.preorderAll ns, x.Known R) {i : Nat} (new : f.length ≤ i)
    {own : Identity} (found : (f.plantAll ns).identityAt i = some own) :
    R own.symbol.id ∨ (f.plantAll ns).fullAt i = true := by
  obtain ⟨j, rfl⟩ := Nat.exists_eq_add_of_le new
  rw [plantedIdentity, Option.map_eq_some_iff] at found
  obtain ⟨x, place, rfl⟩ := found
  rw [plantedFull, place]
  exact known x (List.mem_of_getElem? place)

end Forest

namespace Session

variable {R : Option NodeId → Prop}

def Input.Within (R : Option NodeId → Prop) (i : Input) : Prop :=
  ∀ t v, i = .reply t (.ok v) → ∀ id, v.States id → R id

def Unasked (s : Session) (h : Handle) : Prop :=
  ∀ t under, (t, Pending.expansion h under) ∉ s.waiting

/- Every node of a session has an id that satisfies `R`, or is never asked for. -/
structure Sourced (R : Option NodeId → Prop) (s : Session) : Prop extends Grounded s where
  nodes : ∀ (h : Nat) own, s.forest.identityAt h = some own →
    R own.symbol.id ∨ s.forest.fullAt h = true ∧ s.Unasked h
  entries : ∀ t g entry, (t, Pending.baseRoot g entry) ∈ s.waiting →
    entry.Everywhere fun x => R x.id

theorem decodeStated {s : Session} {t r n} (within : Input.Within R (.reply t r))
    (read : s.decode r = .ok n) : n.Everywhere fun x => R x.id := by
  obtain ⟨v, rfl, wire⟩ := decodeWire read
  exact fun x mem => within t v rfl _ (Node.wireStates wire x mem)

theorem buildsKnown {s : Session} {t r p g n} (sourced : s.Sourced R)
    (within : Input.Within R (.reply t r)) (waits : s.pending? t = some p)
    (built : Builds s r p g n) : n.Everywhere (Node.Known R) := by
  cases built with
  | call read => exact Node.statedKnown (decodeStated within read)
  | merged read joined =>
    have entry := sourced.entries _ _ _ (pendingWaits waits)
    exact Node.mergeKnown entry (decodeStated within read) joined

theorem newChildrenStated {s : Session} {n : Node} (stated : n.Everywhere fun x => R x.id)
    (h : Handle) : ∀ c ∈ s.newChildren h n, c.Everywhere fun x => R x.id := by
  intro c mem
  cases kind : s.kind with
  | call =>
    rw [newChildren, kind, adopted] at mem
    exact stated.child mem
  | inheritance =>
    rw [newChildren, kind, adopted, Node.withDirectionAllMap] at mem
    obtain ⟨own, child, rfl⟩ := List.mem_map.mp mem
    exact Node.copyStated (stated.child child)

section Turns

variable {s : Session} {i : Input} {f : Forest} {root : Option Handle}
  {ins : List (Ticket × Handle)} {h : Nat}

theorem turnsIdentity (turns : Turns s i f root ins)
    (old : h < s.forest.length) : f.identityAt h = s.forest.identityAt h := by
  cases turns with
  | rests => rfl
  | closes => rfl
  | looks asks => exact asksIdentity asks h
  | installs =>
    rw [Forest.plantOne]
    exact Forest.plantAllIdentity _ old
  | grows => exact grownIdentity old

theorem turnsFull (turns : Turns s i f root ins) (old : h < s.forest.length)
    (unasked : s.Unasked h) : f.fullAt h = s.forest.fullAt h := by
  cases turns with
  | rests => rfl
  | closes => rfl
  | looks asks => exact asksFull asks h
  | installs =>
    rw [Forest.plantOne]
    exact Forest.plantAllFull _ old
  | @grows t _ target under _ waits =>
    refine grownFullOther old ?_
    rintro rfl
    exact unasked t under (pendingWaits waits)

theorem turnsNew (sourced : s.Sourced R) (within : Input.Within R i)
    (turns : Turns s i f root ins) (new : s.forest.length ≤ h) {own : Identity}
    (found : f.identityAt h = some own) : R own.symbol.id ∨ f.fullAt h = true := by
  have beyond : ∀ {g : Forest}, g.length = s.forest.length → g.identityAt h ≠ some own := by
    intro g same there
    have inside := Forest.facetBound (congrArg (Option.map Identity.facet) there)
    omega
  cases turns with
  | rests => exact absurd found (beyond rfl)
  | closes => exact absurd found (beyond rfl)
  | looks asks => exact absurd found (beyond (asksLength asks))
  | installs waits built =>
    rw [Forest.plantOne] at found ⊢
    have known := buildsKnown sourced within waits built
    exact Forest.plantedKnown (Node.everywhereOne known) new found
  | grows waits read =>
    have stated := newChildrenStated (s := s) (decodeStated within read)
    rw [grown, Forest.adoptIdentity] at found
    rcases Forest.plantedKnown (Node.everywhereAll fun c mem =>
        Node.statedKnown (stated _ c mem)) new found with given | full
    · exact .inl given
    · refine .inr ?_
      have target := sourced.targets _ _ _ (pendingWaits waits)
      rwa [grown, Forest.adoptFullOther (by omega)]

end Turns

theorem beginsShort {s : Session} {i w h under} (begins : Begins s i w)
    (waits : w.2 = .expansion h under) : s.forest.fullAt h = false := by
  obtain ⟨f, c, asks, found, missing⟩ := beginsFetch begins waits
  rw [← asksFull asks, Forest.fullAt, found]
  exact missing

theorem movesSourced {s : Session} {i s' es} (moves : Moves s i s' es)
    (within : Input.Within R i) (sourced : s.Sourced R) : s'.Sourced R := by
  have turns := movesTurns moves
  have grounded := sourced.toGrounded
  -- what is newly waited for is the children of an old node that lacks them
  have unasked : ∀ h : Nat, s.Unasked h →
      (h < s.forest.length → s.forest.fullAt h = true) → s'.Unasked h := by
    intro h before full t under mem
    rcases movesWaiting moves mem with old | new
    · exact before t under old
    · have short := beginsShort new rfl
      rw [full (beginsTarget new rfl)] at short
      cases short
  refine ⟨movesGrounded moves grounded, ?_, ?_⟩
  · intro h own found
    rcases Nat.lt_or_ge h s.forest.length with old | new
    · rw [turnsIdentity turns old] at found
      rcases sourced.nodes h own found with given | ⟨full, before⟩
      · exact .inl given
      · refine .inr ⟨?_, unasked h before fun _ => full⟩
        rw [turnsFull turns old before, full]
    · refine (turnsNew sourced within turns new found).imp_right fun full => ⟨full, ?_⟩
      refine unasked h ?_ fun old => absurd old (by omega)
      intro t under mem
      have inside := grounded.targets t h under mem
      omega
  · intro t g entry mem
    rcases movesWaiting moves mem with old | new
    · exact sourced.entries t g entry old
    · obtain ⟨_, _, _, rfl, read, rfl⟩ := beginsEntry new rfl
      exact Node.copyStated (decodeStated within read)

theorem afterSourced {s : Session} (sourced : s.Sourced R) (inputs : List Input)
    (within : ∀ i ∈ inputs, Input.Within R i) : (s.after inputs).Sourced R := by
  induction inputs generalizing s with
  | nil => exact sourced
  | cons i rest ih =>
    rw [afterCons]
    have next := movesSourced (stepMoves s i) (within i List.mem_cons_self) sourced
    exact ih next fun j mem => within j (List.mem_cons_of_mem _ mem)

theorem freshSourced (k : Kind) : (fresh k).Sourced R where
  toGrounded := freshGrounded k
  nodes := by simp [fresh, Forest.identityAt]
  entries := by simp [fresh]

def Received (inputs : List Input) (i : Option NodeId) : Prop :=
  ∃ t v, Input.reply t (.ok v) ∈ inputs ∧ v.States i

/- What a request is about: the position of an opening, the entry that has just come for one, or a
node whose children are asked for. -/
inductive Aims (s : Session) (R : Option NodeId → Prop) : Input → Json → Prop
  | opening {p params} (named : params.ByPosition p) : Aims s R (.open p) params
  | joining {t v n w params} (read : Node.ofWire s.kind.model v = .ok n)
      (stated : v.get? "id" = some w) (echoes : w.Echoes n.id) (named : params.ById n.id) :
      Aims s R (.reply t (.ok v)) params
  | listing {i h own params} (asking : i = .expand h ∨ i = .children (some h))
      (node : s.forest.identityAt h = some own) (stated : R own.symbol.id)
      (named : params.ById own.symbol.id) : Aims s R i params

theorem movesAims {s : Session} {i s' es t params} (moves : Moves s i s' es)
    (sourced : s.Sourced R) (sent : Effect.request t params ∈ es) : Aims s R i params := by
  cases moves with
  | starts p =>
    have same : Effect.request t params = .request _ _ := List.mem_singleton.mp sent
    cases same
    exact .opening (rootNamed s.kind p)
  | @enters _ r _ n waits read =>
    have same : Effect.request t params = .request _ _ := List.mem_singleton.mp sent
    cases same
    obtain ⟨v, rfl, wire⟩ := decodeWire read
    obtain ⟨w, stated, echoes⟩ := Node.wireRootEchoes wire
    exact .joining wire stated echoes (baseNamed n.symbol)
  | @fetches _ h f c _ asks found missing known =>
    have same : Effect.request t params = .request _ _ := List.mem_singleton.mp sent
    cases same
    have own : s.forest.identityAt h = some c.identity := by
      rw [← asksIdentity asks, Forest.identityAt, found]
      rfl
    refine .listing (asksNode asks) own ?_ (expansionNamed known)
    rcases sourced.nodes h _ own with given | ⟨full, _⟩
    · exact given
    · rw [← asksFull asks, Forest.fullAt, found] at full
      exact absurd full (by simp [missing])
  | closes => cases active : s.isActive <;> simp [active] at sent
  | installs => simp at sent
  | discards => simp at sent
  | fails => simp at sent
  | @grows _ _ _ under => cases told : s.root.isSome && s.root == under <;> simp_all
  | _ => simp at sent

/- Whatever the backend answers and however its replies overtake each other, a request names one
target, unless the backend gave its node a null for an id. -/
theorem requestsAimed (k : Kind) (inputs : List Input) {i : Input} {t : Ticket} {params : Json}
    (sent : Effect.request t params ∈ (((fresh k).after inputs).step i).2) :
    Aims ((fresh k).after inputs) (Received inputs) i params ∧
      (params.NamesOne ↔ ¬ params.ById none) := by
  have within : ∀ j ∈ inputs, Input.Within (Received inputs) j := by
    rintro j mem t v rfl id stated
    exact ⟨t, v, mem, stated⟩
  have sourced := afterSourced (freshSourced k) inputs within
  have aims := movesAims (stepMoves _ i) sourced sent
  refine ⟨aims, ?_⟩
  have exact : ∀ {id}, params.ById id → (params.NamesOne ↔ ¬ params.ById none) := by
    intro id named
    rw [idNames named]
    refine not_congr ⟨?_, fun other => ?_⟩
    · rintro rfl
      exact named
    · have same := named.id.symm.trans other.id
      simpa using same
  cases aims with
  | opening named =>
    refine iff_of_true (positionNames named) fun other => ?_
    have same := named.position.symm.trans other.position
    cases same
  | joining _ _ _ named => exact exact named
  | listing _ _ _ named => exact exact named

def shortRoot (id : Scalar) : List Input :=
  [.open ⟨"file:///p.cpp", ⟨0, 0⟩⟩,
    .reply 0 (.ok (.object [("id", .scalar id), ("name", .text "main"), ("numChildren", .int 1)]))]

def mainQuery (id : Option NodeId) : Json := CallQuery.params { id := id }

theorem requestsAimedRoot :
    Effect.request 1 (mainQuery (some (.int 7))) ∈
        (((fresh .call).after (shortRoot (.int 7))).step (.expand 0)).2 ∧
      Aims ((fresh .call).after (shortRoot (.int 7))) (Received (shortRoot (.int 7))) (.expand 0)
        (mainQuery (some (.int 7))) ∧
      (mainQuery (some (.int 7))).NamesOne := by
  have sent : Effect.request 1 (mainQuery (some (.int 7))) ∈
      (((fresh .call).after (shortRoot (.int 7))).step (.expand 0)).2 := List.mem_singleton.mpr rfl
  obtain ⟨aims, one⟩ := requestsAimed .call (shortRoot (.int 7)) sent
  refine ⟨sent, aims, one.mpr fun other => ?_⟩
  cases other.id

/- An id may be null; the request for the children of such a node names neither it nor a place. -/
theorem nullIdLost :
    ¬ ∀ (k : Kind) (inputs : List Input) (i : Input) (t : Ticket) (params : Json),
      Effect.request t params ∈ (((fresh k).after inputs).step i).2 → params.NamesOne := by
  intro claimed
  have one : (mainQuery none).NamesOne :=
    claimed .call (shortRoot .null) (.expand 0) 1 _ (List.mem_singleton.mpr rfl)
  exact one rfl

end Session
end SymbolHierarchy
