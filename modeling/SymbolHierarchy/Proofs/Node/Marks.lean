import SymbolHierarchy.Proofs.Node.Payload
import SymbolHierarchy.Proofs.Node.RoundTrip

/-! The marks of a node: that it is synthetic, that it is revealed, and which way it expands. They
are for this side to set, yet a payload that states them is read with them. What reads without its
marks may be refused with them, or read as a tree that differs in its marks; it reads the same
exactly where each mark that is stated is the one that is left out. -/
namespace SymbolHierarchy

namespace Json

def marks : List String := Model.inheritance.clientNames

mutual
def unmarked : Json → Json
  | .object members => .object (membersUnmarked members)
  | .scalar s => .scalar s
  | .list items => .list items
def membersUnmarked : List (String × Json) → List (String × Json)
  | [] => []
  | (k, v) :: rest =>
    if k ∈ marks then membersUnmarked rest
    else if k = "children" then (k, listUnmarked v) :: membersUnmarked rest
    else (k, v) :: membersUnmarked rest
def listUnmarked : Json → Json
  | .list items => .list (itemsUnmarked items)
  | .scalar s => .scalar s
  | .object members => .object members
def itemsUnmarked : List Json → List Json
  | [] => []
  | v :: rest => unmarked v :: itemsUnmarked rest
end

theorem itemsUnmarkedMap (items : List Json) : itemsUnmarked items = items.map unmarked := by
  induction items with
  | nil => rfl
  | cons v rest ih => rw [itemsUnmarked, ih, List.map_cons]

mutual
theorem unmarkedTwice (v : Json) : v.unmarked.unmarked = v.unmarked := by
  cases v with
  | object members => simp only [unmarked, membersUnmarkedTwice]
  | scalar s => rfl
  | list items => rfl
theorem membersUnmarkedTwice (members : List (String × Json)) :
    membersUnmarked (membersUnmarked members) = membersUnmarked members := by
  cases members with
  | nil => rfl
  | cons head rest =>
    obtain ⟨k, v⟩ := head
    have tail := membersUnmarkedTwice rest
    simp only [membersUnmarked]
    split_ifs with mark list
    · exact tail
    · subst list
      simp [membersUnmarked, mark, tail, listUnmarkedTwice v]
    · simp [membersUnmarked, mark, list, tail]
theorem listUnmarkedTwice (v : Json) : listUnmarked (listUnmarked v) = listUnmarked v := by
  cases v with
  | list items => simp only [listUnmarked, itemsUnmarkedTwice]
  | scalar s => rfl
  | object members => rfl
theorem itemsUnmarkedTwice (items : List Json) :
    itemsUnmarked (itemsUnmarked items) = itemsUnmarked items := by
  cases items with
  | nil => rfl
  | cons v rest => simp only [itemsUnmarked, unmarkedTwice v, itemsUnmarkedTwice rest]
end

section Lookups

variable {key : String} (members : List (String × Json))

theorem unmarkedMember (plain : key ∉ marks) (list : key ≠ "children") :
    member key (membersUnmarked members) = member key members := by
  induction members with
  | nil => rfl
  | cons head rest ih =>
    obtain ⟨k, v⟩ := head
    by_cases here : k = key
    · subst here
      simp [membersUnmarked, plain, list, member]
    · simp only [membersUnmarked]
      split_ifs <;> simp [member, here, ih]

theorem unmarkedMark (mark : key ∈ marks) : member key (membersUnmarked members) = none := by
  induction members with
  | nil => rfl
  | cons head rest ih =>
    obtain ⟨k, v⟩ := head
    by_cases here : k = key
    · subst here
      simpa [membersUnmarked, mark] using ih
    · simp only [membersUnmarked]
      split_ifs <;> simp [member, here, ih]

theorem unmarkedChildren :
    member "children" (membersUnmarked members) =
      (member "children" members).map listUnmarked := by
  have plain : "children" ∉ marks := by decide
  induction members with
  | nil => rfl
  | cons head rest ih =>
    obtain ⟨k, v⟩ := head
    by_cases here : k = "children"
    · subst here
      simp [membersUnmarked, plain, member]
    · simp only [membersUnmarked]
      split_ifs <;> simp [member, here, ih]

end Lookups

end Json

namespace Node
open Schema (Checked)

def idleMark (key : String) : Bool := key == "wants_derived"

def mark (n : Node) (key : String) : Bool :=
  if key = "synthetic" then n.synthetic else if key = "revealed" then n.revealed
  else n.wantsDerived

def MarksRead (m : Model) (members : List (String × Json)) : Prop :=
  ∀ key ∈ m.clientNames, ∀ v, Json.member key members = some v →
    ∃ b, Schema.truth v.scalar? = .ok b

/- Every mark that a vertex states is the one that it has when left out. -/
def MarksIdle (m : Model) (members : List (String × Json)) : Prop :=
  ∀ key ∈ m.clientNames, ∀ v, Json.member key members = some v →
    Schema.truth v.scalar? = .ok (idleMark key)

theorem MarksIdle.read {m : Model} {members : List (String × Json)} (idle : MarksIdle m members) :
    MarksRead m members :=
  fun key client v there => ⟨_, idle key client v there⟩

theorem clientMarks {m : Model} {key : String} (client : key ∈ m.clientNames) :
    key ∈ Json.marks := by
  cases m with
  | inheritance => exact client
  | _ =>
    simp only [Model.clientNames, List.mem_cons, List.not_mem_nil, or_false] at client
    rcases client with rfl | rfl <;> decide

section Mark

variable {m : Model} {members : List (String × Json)} {key : String} {b : Bool}

def markField (members : List (String × Json)) (key : String) : Schema.Checked Bool :=
  field members key key (.ok (idleMark key)) (scalarField Schema.truth)

theorem truthRead {v : Json} : scalarField Schema.truth v = .ok b ↔
    Schema.truth v.scalar? = .ok b := by
  cases read : Schema.truth v.scalar? <;>
    simp [scalarField, read, Schema.ofViolation, Schema.fault]

theorem markOk : markField members key = .ok b ↔
    (∃ v, Json.member key members = some v ∧ Schema.truth v.scalar? = .ok b) ∨
      Json.member key members = none ∧ idleMark key = b := by
  simp only [markField, fieldOk, Json.givenAlone, truthRead, Except.ok.injEq]

theorem marksReadExactly :
    MarksRead m members ↔ ∀ key ∈ m.clientNames, ∃ b, markField members key = .ok b := by
  simp only [MarksRead, markOk]
  refine forall₂_congr fun key _ => ?_
  cases Json.member key members <;> simp

theorem marksIdleExactly :
    MarksIdle m members ↔ ∀ key ∈ m.clientNames, markField members key = .ok (idleMark key) := by
  simp only [MarksIdle, markOk]
  refine forall₂_congr fun key _ => ?_
  cases Json.member key members <;> simp

theorem assembledMark {n : Node} (own : Assembled m members n) (client : key ∈ m.clientNames) :
    markField members key = .ok (n.mark key) := by
  have shared : key = "synthetic" ∨ key = "revealed" ∨
      m = .inheritance ∧ key = "wants_derived" := by
    cases m <;> simpa [Model.clientNames] using client
  rcases shared with rfl | rfl | ⟨rfl, rfl⟩
  · exact own.synthetic
  · exact own.revealed
  · obtain ⟨d, facing⟩ := assembledDirected own
    have facet := own.facet
    rw [facetField, facing] at facet
    have marked : n.mark "wants_derived" = d := by
      simp [mark, wantsDerived, facing, Facet.wantsDerived]
    rw [marked]
    cases said : markField members "wants_derived" with
    | error ds =>
      have refused : field members "wants_derived" "wants_derived" (.ok true)
          (scalarField Schema.truth) = .error ds := said
      simp [refused, Except.map] at facet
    | ok e =>
      have read : field members "wants_derived" "wants_derived" (.ok true)
          (scalarField Schema.truth) = .ok e := said
      simpa [read, Except.map] using facet

end Mark

section Agreeing

variable {m : Model} {members said : List (String × Json)} {n : Node} {mark : String → Bool}
  {cs : List Node}

def Agree (members said : List (String × Json)) : Prop :=
  ∀ key ∉ Json.marks, key ≠ "children" → Json.member key said = Json.member key members

theorem agreeField {α : Type} {wire plain : String} {absent : Checked α} {read : Json → Checked α}
    (agree : Agree members said) (marks : wire ∉ Json.marks ∧ plain ∉ Json.marks)
    (list : wire ≠ "children" ∧ plain ≠ "children") :
    field said wire plain absent read = field members wire plain absent read := by
  simp only [field, agree wire marks.1 list.1, agree plain marks.2 list.2]

def marked (mark : String → Bool) (n : Node) (children : List Node) : Node :=
  .mk n.symbol (n.facet.tagged (mark "wants_derived")) n.numChildren children (mark "synthetic")
    (mark "revealed")

theorem agreeFacet (agree : Agree members said) (own : Assembled m members n)
    (marks : ∀ key ∈ m.clientNames, markField said key = .ok (mark key)) :
    facetField m said = .ok (n.facet.tagged (mark "wants_derived")) := by
  have facet := own.facet
  cases m with
  | base =>
    have plain : Facet.plain = n.facet := Except.ok.inj facet
    rw [← plain]
    rfl
  | call =>
    rw [facetField] at facet ⊢
    rw [agreeField agree (by decide) (by decide), facet]
    have model := assembledModel own
    cases kind : n.facet <;> simp_all [Facet.model, Facet.tagged]
  | inheritance =>
    obtain ⟨d, facing⟩ := assembledDirected own
    have read : field said "wants_derived" "wants_derived" (.ok true) (scalarField Schema.truth) =
        .ok (mark "wants_derived") := marks "wants_derived" (by simp [Model.clientNames])
    rw [facetField, read, facing]
    rfl

theorem agreeAssembled (agree : Agree members said) (own : Assembled m members n)
    (marks : ∀ key ∈ m.clientNames, markField said key = .ok (mark key))
    (count : cs.length = n.children.length) : Assembled m said (n.marked mark cs) where
  id := by
    rw [agreeField agree (by decide) (by decide)]
    exact own.id
  name := by
    rw [agreeField agree (by decide) (by decide)]
    exact own.name
  kind := by
    rw [agreeField agree (by decide) (by decide)]
    exact own.kind
  location := by
    rw [agreeField agree (by decide) (by decide)]
    exact own.location
  count := by
    rw [agreeField agree (by decide) (by decide)]
    exact own.count
  synthetic := marks "synthetic" (clientNamed m).1
  revealed := marks "revealed" (clientNamed m).2
  facet := agreeFacet agree own marks
  whole := by
    refine own.whole.imp (fun none => ?_) fun all => ?_
    · change cs = []
      rw [← List.length_eq_zero_iff, count, none, List.length_nil]
    · change (cs.length : Int) = n.numChildren
      rw [count, all]

end Agreeing

section Idle

theorem resetEach {ns : List Node} : ns.map reset = ns ↔ ∀ n ∈ ns, n.reset = n := by
  induction ns with
  | nil => simp
  | cons n rest ih => simp [ih]

theorem idleExactly {n : Node} : (∀ key ∈ n.facet.model.clientNames, n.mark key = idleMark key) ↔
    n.synthetic = false ∧ n.revealed = false ∧ n.facet.tagged true = n.facet := by
  cases facet : n.facet <;>
    simp [Facet.model, Model.clientNames, mark, idleMark, wantsDerived, facet, Facet.wantsDerived,
      Facet.tagged, @eq_comm Bool true]

theorem resetSelf {n : Node} : n.reset = n ↔
    (∀ key ∈ n.facet.model.clientNames, n.mark key = idleMark key) ∧
      ∀ c ∈ n.children, c.reset = c := by
  rw [idleExactly, ← resetEach]
  cases n
  simp only [reset, resetAllMap, mk.injEq, facet, synthetic, revealed, children, true_and]
  tauto

mutual
theorem resetPreorder (n : Node) : n.reset.preorder = n.preorder.map reset := by
  cases n with
  | mk s f k cs y r => simp [reset, preorder, resetPreorderAll cs]
theorem resetPreorderAll (ns : List Node) :
    preorderAll (resetAll ns) = (preorderAll ns).map reset := by
  cases ns with
  | nil => rfl
  | cons n rest => simp [resetAll, preorderAll, resetPreorder n, resetPreorderAll rest]
end

theorem resetIdle (n : Node) : n.reset.Everywhere fun x =>
    x.synthetic = false ∧ x.revealed = false ∧ x.wantsDerived = true := by
  intro x mem
  rw [resetPreorder] at mem
  obtain ⟨y, _, rfl⟩ := List.mem_map.mp mem
  refine ⟨resetSynthetic y, resetRevealed y, ?_⟩
  rw [wantsDerived, resetFacet]
  cases y.facet <;> rfl

end Idle

section Unmarked

variable {m : Model} {members : List (String × Json)} {items : List Json} {n : Node}

theorem unmarkedAgree (members : List (String × Json)) :
    Agree members (Json.membersUnmarked members) :=
  fun _ plain list => Json.unmarkedMember members plain list

theorem unmarkedIdle {key : String} (mark : key ∈ Json.marks) :
    markField (Json.membersUnmarked members) key = .ok (idleMark key) :=
  markOk.mpr (.inr ⟨Json.unmarkedMark members mark, rfl⟩)

theorem unmarkedCarried (carried : Carried members items) :
    Carried (Json.membersUnmarked members) (items.map Json.unmarked) := by
  rw [Carried, Json.unmarkedChildren]
  rcases carried with ⟨absent, rfl⟩ | there
  · exact .inl (by simp [absent])
  · exact .inr (by simp [there, Json.listUnmarked, Json.itemsUnmarkedMap])

theorem carriedUnmarked {given : List Json}
    (carried : Carried (Json.membersUnmarked members) given) :
    ∃ items, Carried members items ∧ given = items.map Json.unmarked := by
  rw [Carried, Json.unmarkedChildren] at carried
  rcases carried with ⟨absent, rfl⟩ | there
  · exact ⟨[], .inl ⟨by simpa using absent, rfl⟩, rfl⟩
  · obtain ⟨v, own, list⟩ := Option.map_eq_some_iff.mp there
    cases v with
    | list items =>
      refine ⟨items, .inr own, ?_⟩
      simpa [Json.listUnmarked, Json.itemsUnmarkedMap] using list.symm
    | scalar s => simp [Json.listUnmarked] at list
    | object inner => simp [Json.listUnmarked] at list

theorem resetMarked (n : Node) : n.reset = n.marked idleMark (n.children.map reset) := by
  cases n
  simp [marked, reset, resetAllMap, symbol, facet, numChildren, children, idleMark]

theorem unmarkedReads {levels : Nat} {v : Json} (reads : Reads m levels v n) :
    Reads m levels v.unmarked n.reset := by
  induction levels generalizing v n with
  | zero => exact reads.elim
  | succ levels ih =>
    obtain ⟨members, items, rfl, carried, each, own⟩ := reads
    refine ⟨_, _, by rw [Json.unmarked], unmarkedCarried carried, ?_, ?_⟩
    · rw [resetChildren, List.forall₂_map_left_iff, List.forall₂_map_right_iff]
      exact each.imp fun _ _ => ih
    · rw [resetMarked]
      exact agreeAssembled (unmarkedAgree members) own
        (fun key client => unmarkedIdle (clientMarks client)) (List.length_map _)

theorem readsMarked {levels depth : Nat} {v : Json} (reads : Reads m levels v.unmarked n)
    (truths : ∀ x ∈ v.vertices depth, MarksRead m x.members) : ∃ n, Reads m levels v n := by
  induction levels generalizing v n depth with
  | zero => exact reads.elim
  | succ levels ih =>
    obtain ⟨said, given, object, carried, each, own⟩ := reads
    cases v with
    | scalar s => simp [Json.unmarked] at object
    | list items => simp [Json.unmarked] at object
    | object members =>
      simp only [Json.unmarked, Json.object.injEq] at object
      subst object
      obtain ⟨items, there, rfl⟩ := carriedUnmarked carried
      have own' := truths _ ((vertexCases there).mpr (.inl rfl))
      choose! mark marks using marksReadExactly.mp own'
      rw [List.forall₂_map_left_iff] at each
      have read : ∀ v ∈ items, ∃ c, Reads m levels v c := by
        intro v item
        obtain ⟨c, _, told⟩ := readsItem (List.forall₂_map_left_iff.mpr each)
          (List.mem_map_of_mem item)
        exact ih told fun x inside => truths x ((vertexCases there).mpr (.inr ⟨v, item, inside⟩))
      obtain ⟨cs, all⟩ := eachRead read
      refine ⟨n.marked mark cs, members, items, rfl, there, all, ?_⟩
      refine agreeAssembled (fun key plain list => ?_) own marks ?_
      · exact (unmarkedAgree members key plain list).symm
      · rw [← each.length_eq, all.length_eq]

theorem readsTruths {levels depth : Nat} {v : Json} (reads : Reads m levels v n) :
    ∀ x ∈ v.vertices depth, MarksRead m x.members := by
  induction levels generalizing v n depth with
  | zero => exact reads.elim
  | succ levels ih =>
    obtain ⟨members, items, rfl, carried, each, own⟩ := reads
    intro x mem
    rcases (vertexCases carried).mp mem with rfl | ⟨w, item, inside⟩
    · exact marksReadExactly.mpr fun key client => ⟨_, assembledMark own client⟩
    · obtain ⟨c, _, read⟩ := readsItem each item
      exact ih read x inside

theorem readsIdle {levels depth : Nat} {v : Json} (reads : Reads m levels v n) :
    n.reset = n ↔ ∀ x ∈ v.vertices depth, MarksIdle m x.members := by
  induction levels generalizing v n depth with
  | zero => exact reads.elim
  | succ levels ih =>
    obtain ⟨members, items, rfl, carried, each, own⟩ := reads
    have self : n.reset = n ↔ MarksIdle m members ∧ ∀ c ∈ n.children, c.reset = c := by
      rw [resetSelf, marksIdleExactly, assembledModel own]
      refine and_congr_left fun _ => forall₂_congr fun _ client => ?_
      rw [assembledMark own client, Except.ok.injEq]
    simp only [self, vertexCases carried]
    constructor
    · rintro ⟨idle, below⟩ x (rfl | ⟨w, item, inside⟩)
      · exact idle
      · obtain ⟨c, child, read⟩ := readsItem each item
        exact (ih read).mp (below c child) x inside
    · intro idle
      refine ⟨idle _ (.inl rfl), fun c child => ?_⟩
      obtain ⟨w, item, read⟩ := readsChild each child
      exact (ih read).mpr fun x inside => idle x (.inr ⟨w, item, inside⟩)

end Unmarked

section Wire

variable {m : Model} {v : Json} {n : Node}

theorem wireUnmarked (read : ofWire m v = .ok n) : ofWire m v.unmarked = .ok n.reset :=
  readsWire (unmarkedReads (wireReads read))

theorem wireMarked : (∃ n, ofWire m v = .ok n) ↔
    (∃ n, ofWire m v.unmarked = .ok n) ∧ ∀ x ∈ v.vertices 0, MarksRead m x.members := by
  constructor
  · rintro ⟨n, read⟩
    exact ⟨⟨n.reset, wireUnmarked read⟩, readsTruths (wireReads read)⟩
  · rintro ⟨⟨n, read⟩, truths⟩
    exact (readsMarked (wireReads read) truths).imp fun _ => readsWire

theorem wireIdle (read : ofWire m v.unmarked = .ok n) :
    ofWire m v = .ok n ↔ ∀ x ∈ v.vertices 0, MarksIdle m x.members := by
  constructor
  · intro same
    have own : n.reset = n := by simpa [wireUnmarked same] using read
    exact (readsIdle (wireReads same)).mp own
  · intro idle
    obtain ⟨out, told⟩ := wireMarked.mpr ⟨⟨n, read⟩, fun x mem => (idle x mem).read⟩
    have own : out.reset = out := (readsIdle (wireReads told)).mpr idle
    have same : out = n := by simpa [wireUnmarked told, own] using read
    exact same ▸ told

end Wire

/- What the marks of a payload do to the tree that it reads as. -/
structure MarksTold (m : Model) : Prop where
  kept : ∀ (v : Json) n, ofWire m v = .ok n → ofWire m v.unmarked = .ok n.reset
  idle : ∀ (v : Json) n, ofWire m v.unmarked = .ok n → n.Everywhere fun x =>
    x.synthetic = false ∧ x.revealed = false ∧ x.wantsDerived = true
  accepted : ∀ v : Json, (∃ n, ofWire m v = .ok n) ↔
    (∃ n, ofWire m v.unmarked = .ok n) ∧ ∀ x ∈ v.vertices 0, MarksRead m x.members
  same : ∀ v : Json, (ofWire m v).toOption = (ofWire m v.unmarked).toOption ↔
    ((∃ n, ofWire m v.unmarked = .ok n) → ∀ x ∈ v.vertices 0, MarksIdle m x.members)

theorem marksTold (m : Model) : MarksTold m where
  kept _ _ := wireUnmarked
  idle v n read := by
    have own : n.reset = n := by
      have twice := wireUnmarked read
      rw [Json.unmarkedTwice, read] at twice
      exact (Except.ok.inj twice).symm
    exact own ▸ resetIdle n
  accepted _ := wireMarked
  same v := by
    cases read : ofWire m v.unmarked with
    | error e =>
      cases told : ofWire m v with
      | error e' => simp [Except.toOption]
      | ok n => simp [wireUnmarked told] at read
    | ok n =>
      have exact : (ofWire m v).toOption = some n ↔ ofWire m v = .ok n := by
        cases ofWire m v <;> simp [Except.toOption]
      have plain : (Except.ok n : Except Malformed Node).toOption = some n := rfl
      rw [plain, exact, wireIdle read]
      simp

def syntheticWire : Json :=
  .object [("id", .int 1), ("name", .text "f"), ("numChildren", .int 1), ("synthetic", .bool true)]

theorem syntheticTaken :
    ¬ ∀ m (v : Json), (ofWire m v).toOption = (ofWire m v.unmarked).toOption := by
  intro same
  have taken := same .call syntheticWire
  have synthetic : (ofWire .call syntheticWire).toOption.map Node.synthetic = some true := rfl
  have plain : (ofWire .call syntheticWire.unmarked).toOption.map Node.synthetic = some false := rfl
  rw [taken, plain] at synthetic
  cases synthetic

end Node
end SymbolHierarchy
