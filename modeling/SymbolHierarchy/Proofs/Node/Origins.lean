import SymbolHierarchy.Proofs.Node.Payload

/-! Where the ids of nodes come from. Each node of a tree that is read has the id that a vertex of
the payload states; the group of supertypes alone has none of its own. -/
namespace SymbolHierarchy

/- A value that an id was sent as. Texts and whole numbers stand for themselves; a truth value or a
number without a fraction is taken as a whole number. -/
inductive Json.Echoes : Option NodeId → Json → Prop
  | null : Echoes none .null
  | text (s : String) : Echoes (some (.text s)) (.text s)
  | int (n : Int) : Echoes (some (.int n)) (.int n)
  | truth (b : Bool) : Echoes (some (.int (if b then 1 else 0))) (.bool b)
  | whole {x : Binary64} {n : Int} (exact : Schema.wholeFloat x = .ok n) :
      Echoes (some (.int n)) (.float x)

def Json.States (v : Json) (i : Option NodeId) : Prop :=
  ∃ x ∈ v.vertices 0, ∃ w, Json.member "id" x.members = some w ∧ Json.Echoes i w

namespace Node

theorem idEchoes {v : Json} {i : Option NodeId} (read : idField v = .ok i) :
    Json.Echoes i v := by
  cases v with
  | list items => simp [idField, Json.scalar?, Schema.int] at read
  | object members => simp [idField, Json.scalar?, Schema.int] at read
  | scalar s =>
    cases s with
    | null =>
      cases read
      exact .null
    | text s =>
      cases read
      exact .text s
    | int n =>
      cases read
      exact .int n
    | bool b =>
      cases read
      exact .truth b
    | float x =>
      cases exact : Schema.wholeFloat x with
      | error e => simp [idField, Json.scalar?, Schema.int, exact] at read
      | ok n =>
        have same : some (NodeId.int n) = i := by
          simpa [idField, Json.scalar?, Schema.int, exact] using read
        exact same ▸ .whole exact

theorem assembledEchoes {m members n} (own : Assembled m members n) :
    ∃ w, Json.member "id" members = some w ∧ Json.Echoes n.id w := by
  rcases fieldOk.mp own.id with ⟨w, there, read⟩ | ⟨_, absent⟩
  · rw [Json.givenAlone] at there
    exact ⟨w, there, idEchoes read⟩
  · simp [Schema.fault] at absent

theorem readsStated {m levels v n depth} (reads : Reads m levels v n) :
    n.Everywhere fun y => ∃ x ∈ v.vertices depth, ∃ w,
      Json.member "id" x.members = some w ∧ Json.Echoes y.id w := by
  induction levels generalizing v n depth with
  | zero => exact reads.elim
  | succ levels ih =>
    obtain ⟨members, items, rfl, carried, each, own⟩ := reads
    refine everywhereOf ?_ ?_
    · exact ⟨_, (vertexCases carried).mpr (.inl rfl), assembledEchoes own⟩
    · intro c child y mem
      obtain ⟨item, there, read⟩ := readsChild each child
      obtain ⟨x, inside, stated⟩ := ih read y mem
      exact ⟨x, (vertexCases carried).mpr (.inr ⟨item, there, inside⟩), stated⟩

theorem wireStates {m v n} (read : ofWire m v = .ok n) :
    n.Everywhere fun y => v.States y.id :=
  readsStated (wireReads read)

theorem wireRootEchoes {m v n} (read : ofWire m v = .ok n) :
    ∃ w, v.get? "id" = some w ∧ Json.Echoes n.id w := by
  obtain ⟨members, _, rfl, _, _, own⟩ := wireReads read
  exact assembledEchoes own

def Known (R : Option NodeId → Prop) (n : Node) : Prop := R n.id ∨ n.isMaterialized = true

section Known

variable {R : Option NodeId → Prop} {n entry base root : Node}

theorem copyStated {d : Bool} (stated : n.Everywhere fun x => R x.id) :
    (n.withDirection d).Everywhere fun x => R x.id :=
  copyEverywhere (fun x own => by simpa [Node.id] using own) stated

theorem statedKnown (stated : n.Everywhere fun x => R x.id) : n.Everywhere (Known R) :=
  fun x mem => .inl (stated x mem)

theorem mergeKnown (stated : entry.Everywhere fun x => R x.id)
    (other : base.Everywhere fun x => R x.id) (joined : entry.merge base = .ok root) :
    root.Everywhere (Known R) := by
  by_cases leaf : base.numChildren = 0
  · exact mergeLeaf leaf joined ▸ statedKnown stated
  · obtain ⟨_, rfl⟩ := mergeGroup leaf joined
    refine withGroupEverywhere ?_ ?_ (statedKnown stated)
    · exact .inl (by simpa [Node.id] using stated.self)
    · refine groupEverywhere (.inr (groupMaterialized _)) fun c child => ?_
      exact statedKnown (copyStated (other.child child))

end Known

end Node
end SymbolHierarchy
