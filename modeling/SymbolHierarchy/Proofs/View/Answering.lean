import SymbolHierarchy.Proofs.Node.RoundTrip
import SymbolHierarchy.Proofs.View.Graph

/-! Servers that tell of a graph by writing its trees, as many levels at once as they like. There is
one for every graph whose locations lie within the limits. -/
namespace SymbolHierarchy
namespace Graph

variable {g : Graph} {i : NodeId} {cs : List Node}

def vertex (g : Graph) (i : NodeId) (cs : List Node) : Node :=
  .mk ⟨some i, g.name i, none, g.location i⟩ (.call .normal) (g.callers i).length cs false false

def tree (g : Graph) : Nat → NodeId → Node
  | 0, i => g.vertex i []
  | levels + 1, i => g.vertex i ((g.callers i).map (g.tree levels))

def Limited (g : Graph) : Prop := ∀ i l, g.location i = some l → l.InRange

theorem vertexCarried :
    Node.Carried (Node.written .call (g.vertex i cs)) (cs.map (Node.wireIn .call)) :=
  .inr Node.writtenChildren

theorem vertexDeclared (limited : g.Limited) :
    Node.Declared .call (Node.written .call (g.vertex i cs)) where
  id := ⟨some i, Node.writtenId⟩
  name := ⟨g.name i, Node.writtenName⟩
  kind v there := by
    rw [Node.writtenKind] at there
    cases there
  location v there := by
    rw [Node.writtenLocation] at there
    obtain ⟨l, place, rfl⟩ := Option.map_eq_some_iff.mp there
    exact .inr ⟨l, Node.wireStated (limited i l place)⟩
  count := ⟨(g.callers i).length, by simp [Json.given, Node.writtenCount, vertex, Node.numChildren]⟩
  children := by
    refine ⟨_, vertexCarried, fun v item => ?_⟩
    obtain ⟨c, _, rfl⟩ := List.mem_map.mp item
    exact ⟨_, Node.wireWritten .call c⟩
  callType _ v there := by
    have code : Json.member "callType" (Node.written .call (g.vertex i cs)) =
        some (.int CallType.normal.code) := Node.writtenCallType rfl
    simp only [Json.given, code, Option.some_or, Option.some.injEq] at there
    exact ⟨0, there.symm, by decide, by decide⟩
  client key client := by
    refine Node.writtenClient ?_
    simp only [Model.clientNames, List.mem_cons, List.not_mem_nil, or_false] at client
    rcases client with rfl | rfl <;> simp

theorem vertexStates (limited : g.Limited) :
    g.States i (Node.written .call (g.vertex i cs)) where
  declared := vertexDeclared limited
  id := Node.writtenId
  name := Node.writtenName
  location l := by
    have own : (g.vertex i cs).location = g.location i := rfl
    rw [Node.writtenLocation, own]
    constructor
    · intro place
      exact ⟨l.wire, by rw [place]; rfl, Node.wireStated (limited i l place)⟩
    · rintro ⟨v, there, stated⟩
      obtain ⟨l', place, rfl⟩ := Option.map_eq_some_iff.mp there
      rw [place, Node.statedOne stated (Node.wireStated (limited i l' place))]
  count := by simp [Json.given, Node.writtenCount, vertex, Node.numChildren]

def payload (g : Graph) (levels : Nat) (i : NodeId) : Json := Node.wireIn .call (g.tree levels i)

theorem bareTold (limited : g.Limited) (i : NodeId) : ∃ members,
    g.payload 0 i = .object members ∧ g.States i members ∧ Node.Carried members [] :=
  ⟨_, Node.wireWritten .call _, vertexStates limited, vertexCarried⟩

theorem fullTold (limited : g.Limited) (below : Nat) (i : NodeId) : ∃ members,
    g.payload (below + 1) i = .object members ∧ g.States i members ∧
      Node.Carried members ((g.callers i).map (g.payload below)) := by
  have items : (g.callers i).map (g.payload below) =
      ((g.callers i).map (g.tree below)).map (Node.wireIn .call) := by
    rw [List.map_map]
    rfl
  rw [items]
  exact ⟨_, Node.wireWritten .call _, vertexStates limited, vertexCarried⟩

theorem payloadReports (limited : g.Limited) {below levels : Nat} (within : below < levels)
    (i : NodeId) : g.Reports levels i (g.payload below i) := by
  induction below generalizing levels i with
  | zero =>
    obtain ⟨levels, rfl⟩ := Nat.exists_eq_add_of_lt within
    obtain ⟨members, object, states, carried⟩ := bareTold limited i
    exact ⟨members, [], object, carried, states, .inl rfl⟩
  | succ below ih =>
    obtain ⟨more, rfl⟩ := Nat.exists_eq_add_of_lt within
    obtain ⟨members, object, states, carried⟩ := fullTold limited below i
    refine ⟨members, _, object, carried, states, .inr ?_⟩
    rw [List.forall₂_map_right_iff, List.forall₂_same]
    exact fun j _ => ih (by omega) j

theorem payloadUnread (limited : g.Limited) (endless : ∀ i, g.callers i ≠ []) {below levels : Nat}
    (beyond : levels ≤ below) (i : NodeId) (n : Node) :
    ¬ Node.Reads .call levels (g.payload below i) n := by
  induction levels generalizing below i n with
  | zero => exact id
  | succ levels ih =>
    rintro ⟨members, items, object, carried, each, _⟩
    cases below with
    | zero => omega
    | succ below =>
      obtain ⟨_, object', _, carried'⟩ := fullTold limited below i
      rw [object] at object'
      cases object'
      obtain rfl := Node.carriedOne carried carried'
      obtain ⟨j, js, callers⟩ := List.exists_cons_of_ne_nil (endless i)
      rw [callers, List.map_cons, List.forall₂_cons_left_iff] at each
      obtain ⟨c, _, read, _⟩ := each
      exact ih (by omega) j c read

def answering (g : Graph) (atRoot atCallers : Nat) (root : NodeId) : Serving Unit := fun params _ =>
  match params.get? "id" with
  | some (.scalar (.int n)) => (.ok (g.payload atCallers (.int n)), ())
  | some (.scalar (.text s)) => (.ok (g.payload atCallers (.text s)), ())
  | _ => (.ok (g.payload atRoot root), ())

variable {atRoot atCallers levels : Nat} {root : NodeId}

theorem answeringRoot (p : DocumentPosition) :
    (g.answering atRoot atCallers root (Kind.call.rootParams p) ()).1 =
      .ok (g.payload atRoot root) := rfl

theorem answeringCallers (i : NodeId) :
    (g.answering atRoot atCallers root (callersParams (some i)) ()).1 =
      .ok (g.payload atCallers i) := by
  cases i <;> rfl

theorem answeringBacks (limited : g.Limited) (first : atRoot < levels) (least : 0 < atCallers)
    (most : atCallers < levels) (p : DocumentPosition) (root : NodeId) :
    g.Backs levels (g.answering atRoot atCallers root) p root where
  root _ := ⟨_, answeringRoot p, payloadReports limited first root⟩
  callers i _ := by
    refine ⟨_, answeringCallers i, payloadReports limited most i, fun called => ?_⟩
    obtain ⟨below, rfl⟩ := Nat.exists_eq_add_of_lt least
    obtain ⟨members, object, _, carried⟩ := fullTold limited (0 + below) i
    rw [object, Json.carriedItems carried]
    simpa using called

end Graph
end SymbolHierarchy
