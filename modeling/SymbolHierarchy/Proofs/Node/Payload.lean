import SymbolHierarchy.Proofs.Node.Fields

/-! Payloads whose members are of their declared sorts, read as the vertices they state. Such a
payload is taken just when at each vertex the count fits the children that are carried and no vertex
lies beneath the last level that is read; the tree then tells what the payload states. -/
namespace SymbolHierarchy

structure Vertex where
  depth : Nat
  members : List (String × Json)

namespace Json

mutual
def vertices (depth : Nat) : Json → List Vertex
  | .object members => ⟨depth, members⟩ :: carriedVertices (depth + 1) members
  | .scalar _ => []
  | .list _ => []
def carriedVertices (depth : Nat) : List (String × Json) → List Vertex
  | [] => []
  | (k, v) :: rest => if k = "children" then listVertices depth v else carriedVertices depth rest
def listVertices (depth : Nat) : Json → List Vertex
  | .list items => itemVertices depth items
  | .scalar _ => []
  | .object _ => []
def itemVertices (depth : Nat) : List Json → List Vertex
  | [] => []
  | v :: rest => vertices depth v ++ itemVertices depth rest
end

theorem itemVerticesEach (depth : Nat) (items : List Json) :
    itemVertices depth items = items.flatMap (vertices depth) := by
  induction items with
  | nil => rfl
  | cons v rest ih => simp [itemVertices, ih]

end Json

def Model.clientNames : Model → List String
  | .inheritance => ["synthetic", "revealed", "wants_derived"]
  | _ => ["synthetic", "revealed"]

namespace Node

section Vertices

variable {members : List (String × Json)} {items : List Json} {depth : Nat}

theorem verticesCarried (carried : Carried members items) :
    (Json.object members).vertices depth =
      ⟨depth, members⟩ :: items.flatMap (Json.vertices (depth + 1)) := by
  rw [Json.vertices, ← Json.itemVerticesEach]
  congr 1
  induction members with
  | nil =>
    rcases carried with ⟨_, rfl⟩ | there
    · rfl
    · cases there
  | cons head rest ih =>
    obtain ⟨k, v⟩ := head
    by_cases here : k = "children"
    · rcases carried with ⟨absent, _⟩ | there
      · simp [Json.member, here] at absent
      · have list : v = .list items := by simpa [Json.member, here] using there
        simp [Json.carriedVertices, here, list, Json.listVertices]
    · rw [Json.carriedVertices, if_neg here]
      exact ih (by simpa only [Carried, Json.member, if_neg here] using carried)

theorem vertexCases (carried : Carried members items) {x : Vertex} :
    x ∈ (Json.object members).vertices depth ↔
      x = ⟨depth, members⟩ ∨ ∃ v ∈ items, x ∈ v.vertices (depth + 1) := by
  rw [verticesCarried carried]
  simp

theorem preorderAllEach (ns : List Node) : preorderAll ns = ns.flatMap preorder := by
  induction ns with
  | nil => rfl
  | cons n rest ih => simp [preorderAll, ih]

end Vertices

/- Every member of the schema is of the sort it is declared with, and none is of this side only. -/
structure Declared (m : Model) (members : List (String × Json)) : Prop where
  id : ∃ i : Option NodeId, Json.member "id" members = some (.scalar (idScalar i))
  name : ∃ s, Json.member "name" members = some (.text s)
  kind : ∀ v, Json.member "kind" members = some v → v = .null ∨ ∃ k, v = .int k
  location : ∀ v, Json.member "location" members = some v →
    v = .null ∨ ∃ l : Location, l.Stated v
  count : ∃ n, Json.given "numChildren" "num_children" members = some (.int n)
  children : ∃ items, Carried members items ∧ ∀ v ∈ items, ∃ inner, v = .object inner
  callType : m = .call → ∀ v, Json.given "callType" "call_type" members = some v →
    ∃ n, v = .int n ∧ 0 ≤ n ∧ n ≤ 3
  client : ∀ key ∈ m.clientNames, Json.member key members = none

structure Typed (m : Model) (depth : Nat) (v : Json) : Prop where
  object : ∃ members, v = .object members
  declared : ∀ x ∈ v.vertices depth, Declared m x.members

/- A count is no less than zero, and the children are none or as many. -/
def Fits (members : List (String × Json)) : Prop :=
  ∃ n items, Json.given "numChildren" "num_children" members = some (.int n) ∧
    Carried members items ∧ 0 ≤ n ∧ (items = [] ∨ (items.length : Int) = n)

structure Tells (x : Vertex) (n : Node) : Prop where
  id : Json.member "id" x.members = some (.scalar (idScalar n.id))
  name : Json.member "name" x.members = some (.text n.name)
  location : ∀ l, n.location = some l ↔
    ∃ v, Json.member "location" x.members = some v ∧ l.Stated v
  count : Json.given "numChildren" "num_children" x.members = some (.int n.numChildren)
  children : ∃ items, Carried x.members items ∧ items.length = n.children.length

section Typed

variable {m : Model} {depth : Nat} {members : List (String × Json)} {items : List Json}

theorem Typed.self (typed : Typed m depth (.object members)) : Declared m members :=
  typed.declared ⟨depth, members⟩ (by simp [Json.vertices])

theorem Typed.item (typed : Typed m depth (.object members)) (carried : Carried members items)
    {v : Json} (item : v ∈ items) : Typed m (depth + 1) v where
  object := by
    obtain ⟨all, same, objects⟩ := typed.self.children
    obtain rfl := carriedOne carried same
    exact objects v item
  declared x mem := typed.declared x ((vertexCases carried).mpr (.inr ⟨v, item, mem⟩))

end Typed

section Declared

variable {m : Model} {members : List (String × Json)}

theorem statedOne {v : Json} {l l' : Location} (one : l.Stated v) (other : l'.Stated v) :
    l = l' := by
  have read := locationRead one
  rw [locationRead other] at read
  exact (Option.some.inj (Except.ok.inj read)).symm

theorem nullStates (l : Location) : ¬ l.Stated .null := by
  rintro ⟨uri, _⟩
  simp [Json.get?] at uri

theorem idDeclared {i : Option NodeId}
    (there : Json.member "id" members = some (.scalar (idScalar i))) :
    field members "id" "id" (Schema.fault .missing) idField = .ok i := by
  rw [← Json.givenAlone] at there
  exact (fieldGiven there).mpr (idRead i)

theorem nameDeclared {s : String} (there : Json.member "name" members = some (.text s)) :
    field members "name" "name" (Schema.fault .missing) (scalarField Schema.text) = .ok s := by
  rw [← Json.givenAlone] at there
  exact (fieldGiven there).mpr (nameRead s)

theorem kindDeclared (declared : Declared m members) : ∃ k, field members "kind" "kind" (.ok none)
    (scalarField (Schema.optional Schema.int)) = .ok k := by
  cases there : Json.member "kind" members with
  | none =>
    rw [← Json.givenAlone] at there
    exact ⟨none, (fieldAbsent there).mpr rfl⟩
  | some v =>
    have sort := declared.kind v there
    rw [← Json.givenAlone] at there
    rcases sort with rfl | ⟨k, rfl⟩
    · exact ⟨none, (fieldGiven there).mpr kindNull⟩
    · exact ⟨some k, (fieldGiven there).mpr (kindRead k)⟩

theorem locationDeclared (declared : Declared m members) :
    ∃ o, field members "location" "location" (.ok none) locationField = .ok o ∧
      ∀ l, o = some l ↔ ∃ v, Json.member "location" members = some v ∧ l.Stated v := by
  cases there : Json.member "location" members with
  | none =>
    rw [← Json.givenAlone] at there
    exact ⟨none, (fieldAbsent there).mpr rfl, by simp⟩
  | some v =>
    have sort := declared.location v there
    rw [← Json.givenAlone] at there
    rcases sort with rfl | ⟨l, stated⟩
    · exact ⟨none, (fieldGiven there).mpr rfl, by simp [nullStates]⟩
    · refine ⟨some l, (fieldGiven there).mpr (locationRead stated), fun l' => ?_⟩
      constructor
      · rintro ⟨⟩
        exact ⟨v, rfl, stated⟩
      · rintro ⟨_, ⟨⟩, other⟩
        rw [statedOne stated other]

theorem clientDeclared (declared : Declared m members) {key : String}
    (client : key ∈ m.clientNames) (absent : Schema.Checked Bool) :
    field members key key absent (scalarField Schema.truth) = absent.under (.field key) := by
  simp [field, declared.client key client]

theorem facetDeclared (declared : Declared m members) : ∃ f, facetField m members = .ok f := by
  cases m with
  | base => exact ⟨.plain, rfl⟩
  | inheritance =>
    refine ⟨.inheritance true, ?_⟩
    rw [facetField, clientDeclared declared (by simp [Model.clientNames])]
    rfl
  | call =>
    cases there : Json.given "callType" "call_type" members with
    | none =>
      refine ⟨.call .normal, ?_⟩
      rw [facetField, (fieldAbsent there).mpr rfl]
      rfl
    | some v =>
      obtain ⟨n, rfl, low, high⟩ := declared.callType rfl v there
      obtain ⟨t, rfl⟩ : ∃ t : CallType, n = t.code := by
        obtain rfl | rfl | rfl | rfl : n = 0 ∨ n = 1 ∨ n = 2 ∨ n = 3 := by omega
        · exact ⟨.normal, rfl⟩
        · exact ⟨.base, rfl⟩
        · exact ⟨.derived, rfl⟩
        · exact ⟨.all, rfl⟩
      refine ⟨.call t, ?_⟩
      rw [facetField, (fieldGiven there).mpr (callTypeRead t)]
      rfl

theorem clientNamed (m : Model) : "synthetic" ∈ m.clientNames ∧ "revealed" ∈ m.clientNames := by
  cases m <;> simp [Model.clientNames]

theorem declaredAssembled {items : List Json} {cs : List Node} (declared : Declared m members)
    (fits : Fits members) (carried : Carried members items) (length : items.length = cs.length) :
    ∃ n, Assembled m members n ∧ n.children = cs := by
  obtain ⟨i, id⟩ := declared.id
  obtain ⟨s, name⟩ := declared.name
  obtain ⟨k, kind⟩ := kindDeclared declared
  obtain ⟨o, location, _⟩ := locationDeclared declared
  obtain ⟨f, facet⟩ := facetDeclared declared
  obtain ⟨count, all, there, same, low, whole⟩ := fits
  obtain rfl := carriedOne carried same
  obtain ⟨synthetic, revealed⟩ := clientNamed m
  refine ⟨.mk ⟨i, s, k, o⟩ f count cs false false, ⟨idDeclared id, nameDeclared name, kind,
    location, (fieldGiven there).mpr (countRead.mpr ⟨rfl, low⟩), ?_, ?_, facet, ?_⟩, rfl⟩
  · rw [clientDeclared declared synthetic]
    rfl
  · rw [clientDeclared declared revealed]
    rfl
  · show cs = [] ∨ (cs.length : Int) = count
    rw [← length]
    refine whole.imp_left fun empty => List.length_eq_zero_iff.mp ?_
    simp [← length, empty]

section Assembled

variable {items : List Json} {n : Node} (declared : Declared m members)
  (own : Assembled m members n)
include declared own

theorem assembledCount :
    Json.given "numChildren" "num_children" members = some (.int n.numChildren) := by
  obtain ⟨k, there⟩ := declared.count
  have read := (fieldGiven there).mp own.count
  rw [there, (countRead.mp read).1]

theorem assembledFits (carried : Carried members items)
    (length : items.length = n.children.length) : Fits members := by
  refine ⟨n.numChildren, items, assembledCount declared own, carried, countReads own.count, ?_⟩
  rw [length]
  refine own.whole.imp_left fun empty => List.length_eq_zero_iff.mp ?_
  simp [length, empty]

theorem assembledTells (depth : Nat) (carried : Carried members items)
    (length : items.length = n.children.length) : Tells ⟨depth, members⟩ n where
  id := by
    obtain ⟨i, there⟩ := declared.id
    have read := own.id
    rw [idDeclared there] at read
    rw [there, Except.ok.inj read]
    rfl
  name := by
    obtain ⟨s, there⟩ := declared.name
    have read := own.name
    rw [nameDeclared there] at read
    rw [there, Except.ok.inj read]
    rfl
  location := by
    obtain ⟨o, said, states⟩ := locationDeclared declared
    have read := own.location
    rw [said] at read
    rw [show n.location = o from (Except.ok.inj read).symm]
    exact states
  count := assembledCount declared own
  children := ⟨items, carried, length⟩

end Assembled

end Declared

section Exact

variable {m : Model}

theorem eachRead {levels : Nat} {items : List Json} (each : ∀ v ∈ items, ∃ c, Reads m levels v c) :
    ∃ cs, List.Forall₂ (Reads m levels) items cs := by
  induction items with
  | nil => exact ⟨[], .nil⟩
  | cons v rest ih =>
    obtain ⟨c, head⟩ := each v List.mem_cons_self
    obtain ⟨cs, tail⟩ := ih fun w item => each w (List.mem_cons_of_mem _ item)
    exact ⟨c :: cs, .cons head tail⟩

theorem typedReads {levels depth : Nat} {v : Json} (typed : Typed m depth v)
    (fine : ∀ x ∈ v.vertices depth, Fits x.members ∧ x.depth < depth + levels) :
    ∃ n, Reads m levels v n := by
  induction levels generalizing depth v with
  | zero =>
    obtain ⟨members, rfl⟩ := typed.object
    have low := (fine ⟨depth, members⟩ (by simp [Json.vertices])).2
    simp at low
  | succ levels ih =>
    obtain ⟨members, rfl⟩ := typed.object
    obtain ⟨items, carried, _⟩ := typed.self.children
    have below : ∀ w ∈ items, ∃ c, Reads m levels w c := by
      intro w item
      refine ih (typed.item carried item) fun x mem => ?_
      obtain ⟨fits, low⟩ := fine x ((vertexCases carried).mpr (.inr ⟨w, item, mem⟩))
      exact ⟨fits, by omega⟩
    obtain ⟨cs, each⟩ := eachRead below
    have fits := (fine ⟨depth, members⟩ (by simp [Json.vertices])).1
    obtain ⟨n, own, rfl⟩ := declaredAssembled typed.self fits carried each.length_eq
    exact ⟨n, members, items, rfl, carried, each, own⟩

theorem readsFine {levels depth : Nat} {v : Json} {n : Node} (typed : Typed m depth v)
    (reads : Reads m levels v n) :
    ∀ x ∈ v.vertices depth, Fits x.members ∧ x.depth < depth + levels := by
  induction levels generalizing depth v n with
  | zero => exact reads.elim
  | succ levels ih =>
    obtain ⟨members, items, rfl, carried, each, own⟩ := reads
    intro x mem
    rcases (vertexCases carried).mp mem with rfl | ⟨w, item, below⟩
    · exact ⟨assembledFits typed.self own carried each.length_eq, by simp⟩
    · obtain ⟨c, _, read⟩ := readsItem each item
      obtain ⟨fits, low⟩ := ih (typed.item carried item) read x below
      exact ⟨fits, by omega⟩

theorem readsTells {levels depth : Nat} {v : Json} {n : Node} (typed : Typed m depth v)
    (reads : Reads m levels v n) : List.Forall₂ Tells (v.vertices depth) n.preorder := by
  induction levels generalizing depth v n with
  | zero => exact reads.elim
  | succ levels ih =>
    obtain ⟨members, items, rfl, carried, each, own⟩ := reads
    rw [verticesCarried carried, preorderSelf, preorderAllEach]
    refine .cons (assembledTells typed.self own depth carried each.length_eq) ?_
    have typedEach := (List.forall₂_and_left items n.children).mpr
      ⟨fun w item => typed.item carried item, each⟩
    exact List.rel_flatMap typedEach fun w c both => ih both.1 both.2

theorem wireExact {v : Json} (typed : Typed m 0 v) : (∃ n, ofWire m v = .ok n) ↔
    ∀ x ∈ v.vertices 0, Fits x.members ∧ x.depth < levelLimit := by
  constructor
  · rintro ⟨n, read⟩
    simpa using readsFine typed (wireReads read)
  · intro fine
    have read : ∃ n, Reads m levelLimit v n := typedReads typed (by simpa using fine)
    exact read.imp fun _ => readsWire

end Exact

end Node
end SymbolHierarchy
