import SymbolHierarchy.Proofs.Node.Payload
import SymbolHierarchy.Proofs.Session.Prompt
import SymbolHierarchy.View.Markup

/-! Call graphs, and what a server may tell of one. A graph may well have cycles: it is unfolded to
a depth only. A payload states a symbol and carries its callers, each stated alike, or none of them,
so it may stop at any level. -/
namespace SymbolHierarchy

structure Graph where
  name : NodeId → String
  location : NodeId → Option Location
  callers : NodeId → List NodeId

inductive Unfolding
  | node (id : NodeId) (below : List Unfolding)

namespace Json

def carried (v : Json) : List Json :=
  match v.get? "children" with
  | some (.list items) => items
  | _ => []

def facet (v : Json) : Facet :=
  match v with
  | .object members => (Node.facetField .call members).toOption.getD (.call .normal)
  | _ => .call .normal

theorem carriedItems {members items} (carried : Node.Carried members items) :
    (Json.object members).carried = items := by
  rcases carried with ⟨absent, rfl⟩ | there
  · simp [Json.carried, get?, absent]
  · simp [Json.carried, get?, there]

end Json

namespace Graph

variable (g : Graph)

def unfold : Nat → NodeId → Unfolding
  | 0, i => .node i []
  | depth + 1, i => .node i ((g.callers i).map (unfold depth))

/- The members of a payload tell of a symbol what the graph does, and count its callers. -/
structure States (i : NodeId) (members : List (String × Json)) : Prop where
  declared : Node.Declared .call members
  id : Json.member "id" members = some (.scalar i.scalar)
  name : Json.member "name" members = some (.text (g.name i))
  location : ∀ l, g.location i = some l ↔
    ∃ v, Json.member "location" members = some v ∧ l.Stated v
  count : Json.given "numChildren" "num_children" members = some (.int (g.callers i).length)

def Reports : Nat → NodeId → Json → Prop
  | 0, _, _ => False
  | levels + 1, i, v => ∃ members items, v = .object members ∧ Node.Carried members items ∧
      g.States i members ∧ (items = [] ∨ List.Forall₂ (Reports levels) (g.callers i) items)

/- A server whose replies tell of the graph: of a symbol where a root is asked for, and of any
symbol with its callers where those are. -/
structure Backs {σ : Type} (levels : Nat) (serve : Serving σ) (p : DocumentPosition)
    (root : NodeId) : Prop where
  root : ∀ s, ∃ v, (serve (Kind.call.rootParams p) s).1 = .ok v ∧ g.Reports levels root v
  callers : ∀ i s, ∃ v, (serve (callersParams (some i)) s).1 = .ok v ∧ g.Reports levels i v ∧
    (g.callers i ≠ [] → v.carried ≠ [])

def Renderable : Prop := ∀ i l, g.location i = some l → ∃ file, Uri.basename l.uri = .ok file

def face (i : NodeId) (v : Json) : Face where
  symbol := ⟨some i, g.name i, none, g.location i⟩
  facet := v.facet
  numChildren := (g.callers i).length
  carried := v.carried.length
  synthetic := false
  revealed := false

def title (icons : IconTheme) (i : NodeId) (v : Json) : Except Raised String :=
  (g.face i v).styledLabel icons

variable {g} {i : NodeId} {v : Json} {levels : Nat}

theorem labelled (renders : g.Renderable) : ∃ label, (g.face i v).label = .ok label := by
  cases place : g.location i with
  | none => exact ⟨g.name i, by simp [Face.label, face, place]⟩
  | some l =>
    obtain ⟨file, named⟩ := renders i l place
    refine ⟨g.name i ++ " (" ++ file ++ ":" ++ toString (l.range.start.line + 1) ++ ")", ?_⟩
    simp [Face.label, face, place, named, bind, Except.bind]

theorem titled (renders : g.Renderable) (icons : IconTheme) (i : NodeId) (v : Json) :
    ∃ label, g.title icons i v = .ok label := by
  obtain ⟨label, told⟩ := labelled (i := i) (v := v) renders
  simp [title, Face.styledLabel, Face.item, told, bind, Except.bind]

section Stated

variable {members : List (String × Json)} {items : List Json} {n : Node}

theorem statedFits (states : g.States i members) (carried : Node.Carried members items)
    (whole : items = [] ∨ items.length = (g.callers i).length) : Node.Fits members :=
  ⟨(g.callers i).length, items, states.count, carried, by omega, whole.imp_right (by omega)⟩

structure Pictures (g : Graph) (i : NodeId) (v : Json) (n : Node) : Prop where
  id : n.symbol.id = some i
  name : n.symbol.name = g.name i
  location : n.symbol.location = g.location i
  count : n.numChildren = (g.callers i).length
  synthetic : n.synthetic = false
  revealed : n.revealed = false
  facet : v.facet = n.facet
  carried : v.carried.length = n.children.length

theorem statedPictures (states : g.States i members) (own : Node.Assembled .call members n)
    (carried : Node.Carried members items) (length : items.length = n.children.length) :
    g.Pictures i (.object members) n where
  id := by
    have read := own.id
    rw [Node.idDeclared (i := some i) states.id] at read
    exact (Except.ok.inj read).symm
  name := by
    have read := own.name
    rw [Node.nameDeclared states.name] at read
    exact (Except.ok.inj read).symm
  location := by
    obtain ⟨o, said, place⟩ := Node.locationDeclared states.declared
    have read := own.location
    rw [said] at read
    rw [← Except.ok.inj read]
    exact Option.ext fun l => (place l).trans (states.location l).symm
  count := by
    have told := Node.assembledCount states.declared own
    rw [states.count] at told
    simpa using told.symm
  synthetic := by
    have read := own.synthetic
    rw [Node.clientDeclared states.declared (Node.clientNamed .call).1] at read
    exact (Except.ok.inj read).symm
  revealed := by
    have read := own.revealed
    rw [Node.clientDeclared states.declared (Node.clientNamed .call).2] at read
    exact (Except.ok.inj read).symm
  facet := by simp [Json.facet, own.facet, Except.toOption]
  carried := by rw [Json.carriedItems carried, length]

theorem picturedTitle (pictures : g.Pictures i v n) (icons : IconTheme) :
    n.face.styledLabel icons = g.title icons i v := by
  have same : n.face =
      { g.face i v with symbol := { (g.face i v).symbol with kind := n.symbol.kind } } := by
    simp only [Node.face, face, ← pictures.id, ← pictures.name, ← pictures.location,
      pictures.count, pictures.synthetic, pictures.revealed, pictures.facet, pictures.carried]
  rw [same]
  rfl

end Stated

theorem eachReported {is : List NodeId} {items : List Json}
    (read : ∀ i v, g.Reports levels i v → ∃ n, Node.Reads .call levels v n)
    (each : List.Forall₂ (g.Reports levels) is items) :
    ∃ cs, List.Forall₂ (Node.Reads .call levels) items cs := by
  induction each with
  | nil => exact ⟨[], .nil⟩
  | cons told _ ih =>
    obtain ⟨c, head⟩ := read _ _ told
    obtain ⟨cs, tail⟩ := ih
    exact ⟨c :: cs, .cons head tail⟩

theorem reportsRead (reports : g.Reports levels i v) : ∃ n, Node.Reads .call levels v n := by
  induction levels generalizing i v with
  | zero => exact reports.elim
  | succ levels ih =>
    obtain ⟨members, items, rfl, carried, states, all⟩ := reports
    obtain ⟨cs, each⟩ : ∃ cs, List.Forall₂ (Node.Reads .call levels) items cs := by
      rcases all with rfl | each
      · exact ⟨[], .nil⟩
      · exact eachReported (fun _ _ => ih) each
    have fits : Node.Fits members :=
      statedFits states carried (all.imp_right fun each => each.length_eq.symm)
    obtain ⟨n, own, rfl⟩ := Node.declaredAssembled states.declared fits carried each.length_eq
    exact ⟨n, members, items, rfl, carried, each, own⟩

theorem reportsLevel {n : Node} (reports : g.Reports levels i v)
    (reads : Node.Reads .call levels v n) : ∃ below, g.Pictures i v n ∧
      (v.carried = [] ∨ List.Forall₂ (g.Reports below) (g.callers i) v.carried) ∧
      List.Forall₂ (Node.Reads .call below) v.carried n.children := by
  cases levels with
  | zero => exact reports.elim
  | succ levels =>
    obtain ⟨members, items, rfl, carried, states, all⟩ := reports
    obtain ⟨_, items', ⟨⟩, carried', each, own⟩ := reads
    obtain rfl := Node.carriedOne carried carried'
    refine ⟨levels, statedPictures states own carried each.length_eq, ?_, ?_⟩
    · rwa [Json.carriedItems carried]
    · rwa [Json.carriedItems carried]

end Graph
end SymbolHierarchy
