import SymbolHierarchy.Proofs.Node.Fields

/-! Writing a tree and reading it again. A null is left out where it is written and an id is asked
for where it is read, so a tree comes back just when each of its nodes has an id; it comes back
without what only this side knows. -/
namespace SymbolHierarchy

theorem Json.memberAppend (name : String) (first second : List (String × Json)) :
    member name (first ++ second) = (member name first).or (member name second) := by
  induction first with
  | nil => rfl
  | cons head rest ih =>
    obtain ⟨k, v⟩ := head
    by_cases here : k = name
    · simp [member, here]
    · simp [member, here, ih]

theorem Json.memberOption {α : Type} (name key : String) (o : Option α) (write : α → Json) :
    member name (o.map fun x => (key, write x)).toList =
      if key = name then o.map write else none := by
  cases o <;> simp [member]

theorem Facet.taggedModel (d : Bool) (f : Facet) : (f.tagged d).model = f.model := by
  cases f <;> rfl

namespace Node

mutual
/- A tree without what only this side knows of it. -/
def reset : Node → Node
  | .mk s f n cs _ _ => .mk s (f.tagged true) n (resetAll cs) false false
def resetAll : List Node → List Node
  | [] => []
  | n :: rest => reset n :: resetAll rest
end

theorem resetAllMap (ns : List Node) : resetAll ns = ns.map reset := by
  induction ns with
  | nil => rfl
  | cons n rest ih => simp [resetAll, ih]

section Reset

variable (n : Node)

@[simp] theorem resetSymbol : n.reset.symbol = n.symbol := by
  cases n; rfl

@[simp] theorem resetFacet : n.reset.facet = n.facet.tagged true := by
  cases n; rfl

@[simp] theorem resetCount : n.reset.numChildren = n.numChildren := by
  cases n; rfl

@[simp] theorem resetSynthetic : n.reset.synthetic = false := by
  cases n; rfl

@[simp] theorem resetRevealed : n.reset.revealed = false := by
  cases n; rfl

@[simp] theorem resetChildren : n.reset.children = n.children.map reset := by
  cases n
  simp only [reset, children, resetAllMap]

end Reset

mutual
theorem wireReset (m : Model) (n : Node) : wireIn m n.reset = wireIn m n := by
  cases n with
  | mk s f k cs y r => cases f <;> simp [reset, wireIn, wireAllReset, Facet.tagged, Facet.members]
theorem wireAllReset (m : Model) (ns : List Node) : wireAllIn m (resetAll ns) = wireAllIn m ns := by
  cases ns with
  | nil => rfl
  | cons n rest => simp [resetAll, wireAllIn, wireReset, wireAllReset]
end

theorem wireAllMap (m : Model) (ns : List Node) : wireAllIn m ns = ns.map (wireIn m) := by
  induction ns with
  | nil => rfl
  | cons n rest ih => simp [wireAllIn, ih]

def written (m : Model) (n : Node) : List (String × Json) :=
  n.symbol.members ++ [("numChildren", .int n.numChildren),
    ("children", .list (n.children.map (wireIn m)))] ++ n.facet.members m

theorem wireWritten (m : Model) (n : Node) : wireIn m n = .object (written m n) := by
  cases n
  simp [wireIn, written, wireAllMap, symbol, numChildren, children, facet]

section Written

variable {m : Model} {n : Node}

theorem facetMembersNone {name : String} (f : Facet) (other : name ≠ "callType") :
    Json.member name (f.members m) = none := by
  cases m <;> cases f <;> simp [Facet.members, Json.member, Ne.symm other]

theorem writtenId : Json.member "id" (written m n) = n.id.map fun i => .scalar i.scalar := by
  simp [written, Symbol.members, Json.memberAppend, Json.memberOption, Json.member,
    facetMembersNone, Node.id]

theorem writtenName : Json.member "name" (written m n) = some (.text n.name) := by
  simp [written, Symbol.members, Json.memberAppend, Json.memberOption, Json.member, Node.name]

theorem writtenKind : Json.member "kind" (written m n) = n.symbol.kind.map Json.int := by
  simp [written, Symbol.members, Json.memberAppend, Json.memberOption, Json.member,
    facetMembersNone]

theorem writtenLocation :
    Json.member "location" (written m n) = n.location.map Location.wire := by
  simp [written, Symbol.members, Json.memberAppend, Json.memberOption, Json.member,
    facetMembersNone, Node.location]

theorem writtenCount : Json.member "numChildren" (written m n) = some (.int n.numChildren) := by
  simp [written, Symbol.members, Json.memberAppend, Json.memberOption, Json.member]

theorem writtenChildren :
    Json.member "children" (written m n) = some (.list (n.children.map (wireIn m))) := by
  simp [written, Symbol.members, Json.memberAppend, Json.memberOption, Json.member]

theorem writtenClient {name : String}
    (client : name ∈ ["synthetic", "revealed", "wants_derived", "call_type", "num_children"]) :
    Json.member name (written m n) = none := by
  have other : name ≠ "callType" := by
    rintro rfl
    simp at client
  simp only [List.mem_cons, List.not_mem_nil, or_false] at client
  rcases client with rfl | rfl | rfl | rfl | rfl <;>
    simp [written, Symbol.members, Json.memberAppend, Json.memberOption, Json.member,
      facetMembersNone]

theorem wireStated {l : Location} (limits : l.InRange) : l.Stated l.wire where
  uri := rfl
  range := ⟨_, _, _, rfl, rfl, rfl, ⟨rfl, rfl, limits.1⟩, ⟨rfl, rfl, limits.2⟩⟩

theorem writtenCallType {t : CallType} (own : n.facet = .call t) :
    Json.member "callType" (written .call n) = some (.int t.code) := by
  simp [written, Symbol.members, Json.memberAppend, Json.memberOption, Json.member, own,
    Facet.members]

theorem writtenFacet (model : n.facet.model = m) :
    facetField m (written m n) = .ok (n.facet.tagged true) := by
  cases own : n.facet with
  | plain =>
    have same : m = .base := by rw [← model, own]; rfl
    subst same
    rfl
  | call t =>
    have same : m = .call := by rw [← model, own]; rfl
    subst same
    have there : Json.given "callType" "call_type" (written .call n) = some (.int t.code) := by
      simp [Json.given, writtenCallType own]
    rw [facetField, (fieldGiven there).mpr (callTypeRead t)]
    rfl
  | inheritance d =>
    have same : m = .inheritance := by rw [← model, own]; rfl
    subst same
    have missing : Json.given "wants_derived" "wants_derived" (written .inheritance n) = none := by
      rw [Json.givenAlone, writtenClient (by simp)]
    rw [facetField, (fieldAbsent missing).mpr rfl]
    rfl

theorem writtenAssembled (bounded : n.Bounded m) (known : n.id ≠ none) :
    Assembled m (written m n) n.reset where
  id := by
    obtain ⟨i, own⟩ := Option.ne_none_iff_exists'.mp known
    refine (fieldGiven (v := .scalar i.scalar) ?_).mpr ?_
    · rw [Json.givenAlone, writtenId, own, Option.map_some]
    · rw [resetSymbol, show n.symbol.id = some i from own]
      exact idRead (some i)
  name := by
    refine (fieldGiven (v := .text n.name) ?_).mpr ?_
    · rw [Json.givenAlone, writtenName]
    · rw [resetSymbol]
      exact nameRead n.name
  kind := by
    rw [resetSymbol]
    cases own : n.symbol.kind with
    | none =>
      refine (fieldAbsent ?_).mpr rfl
      rw [Json.givenAlone, writtenKind, own, Option.map_none]
    | some k =>
      refine (fieldGiven (v := .int k) ?_).mpr (kindRead k)
      rw [Json.givenAlone, writtenKind, own, Option.map_some]
  location := by
    rw [resetSymbol, show n.symbol.location = n.location from rfl]
    cases own : n.location with
    | none =>
      refine (fieldAbsent ?_).mpr rfl
      rw [Json.givenAlone, writtenLocation, own, Option.map_none]
    | some l =>
      refine (fieldGiven (v := l.wire) ?_).mpr (locationRead (wireStated (bounded.location l own)))
      rw [Json.givenAlone, writtenLocation, own, Option.map_some]
  count := by
    refine (fieldGiven (v := .int n.numChildren) ?_).mpr ?_
    · simp [Json.given, writtenCount]
    · exact countRead.mpr ⟨resetCount n, bounded.count⟩
  synthetic := by
    refine (fieldAbsent ?_).mpr (by rw [resetSynthetic])
    rw [Json.givenAlone, writtenClient (by simp)]
  revealed := by
    refine (fieldAbsent ?_).mpr (by rw [resetRevealed])
    rw [Json.givenAlone, writtenClient (by simp)]
  facet := by rw [resetFacet, writtenFacet bounded.model]
  whole := by
    rcases bounded.children with none | all
    · exact .inl (by simp [none])
    · exact .inr (by simpa using all)

end Written

section Trip

variable {m : Model}

theorem writtenCarried (n : Node) : Carried (written m n) (n.children.map (wireIn m)) :=
  .inr writtenChildren

theorem writtenReads {levels v n} (reads : Reads m levels v n)
    (known : n.Everywhere fun x => x.id ≠ none) : Reads m levels (wireIn m n) n.reset := by
  induction levels generalizing v n with
  | zero => exact reads.elim
  | succ levels ih =>
    have bounded := (readsBounded reads).self
    obtain ⟨members, items, rfl, _, each, own⟩ := reads
    refine ⟨written m n, _, wireWritten m n, writtenCarried n, ?_,
      writtenAssembled bounded known.self⟩
    rw [resetChildren, List.forall₂_map_left_iff, List.forall₂_map_right_iff, List.forall₂_same]
    intro c child
    obtain ⟨item, _, read⟩ := readsChild each child
    exact ih read (known.child child)

theorem readsKnown {levels n out} (reads : Reads m levels (wireIn m n) out) :
    n.Everywhere fun x => x.id ≠ none := by
  induction levels generalizing n out with
  | zero => exact reads.elim
  | succ levels ih =>
    obtain ⟨members, items, same, carried, each, own⟩ := reads
    rw [wireWritten] at same
    cases same
    obtain rfl := carriedOne carried (writtenCarried n)
    refine everywhereOf ?_ ?_
    · intro unknown
      have missing : Json.given "id" "id" (written m n) = none := by
        rw [Json.givenAlone, writtenId, unknown, Option.map_none]
      cases (fieldAbsent missing).mp own.id
    · intro c child
      obtain ⟨_, _, read⟩ := readsItem each (List.mem_map_of_mem child)
      exact ih read

/- Exactly the trees with ids throughout read back, each as itself without what only this side
knows, and then write the same. -/
theorem roundTrip {v : Json} {n : Node} (read : ofWire m v = .ok n) :
    ((∃ out, ofWire m n.wire = .ok out) ↔ n.Everywhere fun x => x.id ≠ none) ∧
      ∀ out, ofWire m n.wire = .ok out → out = n.reset ∧ out.wire = n.wire := by
  have reads := wireReads read
  have model : n.facet.model = m := (readsBounded reads).self.model
  have wire : n.wire = wireIn m n := by rw [Node.wire, model]
  have back : n.Everywhere (fun x => x.id ≠ none) → ofWire m n.wire = .ok n.reset :=
    fun known => wire ▸ readsWire (writtenReads reads known)
  have known : ∀ out, ofWire m n.wire = .ok out → n.Everywhere fun x => x.id ≠ none :=
    fun out told => readsKnown (wireReads (wire ▸ told))
  refine ⟨⟨fun ⟨out, told⟩ => known out told, fun ids => ⟨n.reset, back ids⟩⟩, ?_⟩
  intro out told
  have same : n.reset = out := by
    have again := back (known out told)
    rw [told] at again
    exact (Except.ok.inj again).symm
  subst same
  refine ⟨rfl, ?_⟩
  rw [Node.wire, resetFacet, Facet.taggedModel, model, wireReset, wire]

def firstPlace : Location := ⟨"file:///s/a.cpp", ⟨⟨0, 0⟩, ⟨0, 3⟩⟩⟩

def shapeWire : Json :=
  .object [("id", .int 1), ("name", .text "Shape"), ("kind", .text " 5"), ("numChildren", .int 1),
    ("wants_derived", .bool false), ("revealed", .int 1), ("children", .list [
      .object [("id", .text "c"), ("name", .text "Circle"), ("location", firstPlace.wire),
        ("num_children", .int 2)]])]

def shape : Node :=
  .mk ⟨some (.int 1), "Shape", some 5, none⟩ (.inheritance false) 1
    [.mk ⟨some (.text "c"), "Circle", none, some firstPlace⟩ (.inheritance true) 2 [] false false]
    false true

theorem shapeRoundTrip :
    ofWire .inheritance shapeWire = .ok shape ∧ ofWire .inheritance shape.wire = .ok shape.reset ∧
      shape.reset.wire = shape.wire := by
  have read : ofWire .inheritance shapeWire = .ok shape := by rfl
  have known : shape.Everywhere fun x => x.id ≠ none := by
    simp [Everywhere, shape, preorder, preorderAll, Node.id, symbol]
  obtain ⟨out, told⟩ := (roundTrip read).1.mpr known
  obtain ⟨rfl, same⟩ := (roundTrip read).2 out told
  exact ⟨read, told, same⟩

end Trip

end Node
end SymbolHierarchy
