import SymbolHierarchy.Node.Decode
import SymbolHierarchy.Proofs.Node.Tree
import Mathlib.Data.List.Forall2

/-! Payloads that read as node trees, level by level. A node is assembled from its
own members, each found under one of its names and checked by itself, and its children
are read from the items it carries, in order. -/
namespace SymbolHierarchy

def Json.given (wire plain : String) (members : List (String × Json)) : Option Json :=
  (member wire members).or (member plain members)

theorem Json.givenAlone (name : String) (members : List (String × Json)) :
    given name name members = member name members := by
  simp [given]

namespace Node
open Schema (Checked)

section Field

variable {α : Type} {members : List (String × Json)} {wire plain : String} {absent : Checked α}
  {read : Json → Checked α} {a : α}

theorem underOk {s : Schema.Step} {c : Checked α} : c.under s = .ok a ↔ c = .ok a := by
  cases c <;> simp [Schema.Checked.under]

theorem fieldOk : field members wire plain absent read = .ok a ↔
    (∃ v, Json.given wire plain members = some v ∧ read v = .ok a) ∨
      Json.given wire plain members = none ∧ absent = .ok a := by
  cases first : Json.member wire members with
  | some v => simp [field, Json.given, first, underOk]
  | none =>
    cases second : Json.member plain members with
    | some v => simp [field, Json.given, first, second, underOk]
    | none => simp [field, Json.given, first, second, underOk]

theorem fieldGiven {v : Json} (there : Json.given wire plain members = some v) :
    field members wire plain absent read = .ok a ↔ read v = .ok a := by
  simp [fieldOk, there]

theorem fieldAbsent (missing : Json.given wire plain members = none) :
    field members wire plain absent read = .ok a ↔ absent = .ok a := by
  simp [fieldOk, missing]

end Field

def Carried (members : List (String × Json)) (items : List Json) : Prop :=
  (Json.member "children" members = none ∧ items = []) ∨
    Json.member "children" members = some (.list items)

theorem carriedOne {members items items'} (one : Carried members items)
    (other : Carried members items') : items = items' := by
  rcases one with ⟨none, rfl⟩ | here
  · rcases other with ⟨_, rfl⟩ | there
    · rfl
    · simp [none] at there
  · rcases other with ⟨none, _⟩ | there
    · simp [none] at here
    · simpa [here] using there

structure Assembled (m : Model) (members : List (String × Json)) (n : Node) : Prop where
  id : field members "id" "id" (Schema.fault .missing) idField = .ok n.symbol.id
  name : field members "name" "name" (Schema.fault .missing) (scalarField Schema.text) =
    .ok n.symbol.name
  kind : field members "kind" "kind" (.ok none) (scalarField (Schema.optional Schema.int)) =
    .ok n.symbol.kind
  location : field members "location" "location" (.ok none) locationField = .ok n.symbol.location
  count : field members "numChildren" "num_children" (Schema.fault .missing)
    (scalarField (Schema.intFrom 0)) = .ok n.numChildren
  synthetic : field members "synthetic" "synthetic" (.ok false) (scalarField Schema.truth) =
    .ok n.synthetic
  revealed : field members "revealed" "revealed" (.ok false) (scalarField Schema.truth) =
    .ok n.revealed
  facet : facetField m members = .ok n.facet
  whole : n.children = [] ∨ (n.children.length : Int) = n.numChildren

theorem checkedCount {n out : Node} (ok : checkCount n = .ok out) :
    out = n ∧ (n.children = [] ∨ (n.children.length : Int) = n.numChildren) := by
  unfold checkCount at ok
  split at ok
  · rename_i fits
    cases ok
    exact ⟨rfl, by simpa [isMaterialized] using fits⟩
  · simp [Schema.fault] at ok

theorem assembled {m members children n} (ok : assemble m members children = .ok n) :
    Assembled m members n ∧ children = .ok n.children := by
  simp only [assemble] at ok
  split at ok
  · rename_i id name kind location count synthetic revealed facet
    obtain ⟨rfl, whole⟩ := checkedCount ok
    exact ⟨⟨id, name, kind, location, count, synthetic, revealed, facet, whole⟩, rfl⟩
  · contradiction

def Reads (m : Model) : Nat → Json → Node → Prop
  | 0, _, _ => False
  | levels + 1, v, n => ∃ members items, v = .object members ∧ Carried members items ∧
      List.Forall₂ (Reads m levels) items n.children ∧ Assembled m members n

theorem childItemsEach {m levels i items ns} (ok : childItems m levels i items = .ok ns) :
    List.Forall₂ (fun v n => decode m levels v = .ok n) items ns := by
  induction items generalizing i ns with
  | nil =>
    cases ok
    exact .nil
  | cons v rest ih =>
    simp only [childItems] at ok
    split at ok
    · rename_i head tail
      cases ok
      exact .cons (underOk.mp head) (ih tail)
    · contradiction

theorem childListItems {m levels v ns} (ok : childList m levels v = .ok ns) :
    ∃ items, v = .list items ∧ childItems m levels 0 items = .ok ns := by
  cases v with
  | list items => exact ⟨items, rfl, by simpa only [childList] using ok⟩
  | scalar s => simp [childList, Schema.fault] at ok
  | object members => simp [childList, Schema.fault] at ok

theorem childrenOfCarried {m levels members ns} (ok : childrenOf m levels members = .ok ns) :
    ∃ items, Carried members items ∧ childItems m levels 0 items = .ok ns := by
  induction members with
  | nil =>
    cases ok
    exact ⟨[], .inl ⟨rfl, rfl⟩, rfl⟩
  | cons head rest ih =>
    obtain ⟨k, v⟩ := head
    simp only [childrenOf] at ok
    split at ok
    · rename_i here
      obtain ⟨items, list, each⟩ := childListItems (underOk.mp ok)
      exact ⟨items, .inr (by simp [Json.member, here, list]), each⟩
    · rename_i other
      obtain ⟨items, carried, each⟩ := ih ok
      exact ⟨items, by simpa only [Carried, Json.member, if_neg other] using carried, each⟩

theorem decodeReads {m levels v n} (ok : decode m levels v = .ok n) : Reads m levels v n := by
  induction levels generalizing v n with
  | zero => cases v <;> simp [decode, Schema.fault] at ok
  | succ levels ih =>
    cases v with
    | scalar s => simp [decode, Schema.fault] at ok
    | list items => simp [decode, Schema.fault] at ok
    | object members =>
      simp only [decode] at ok
      obtain ⟨own, children⟩ := assembled ok
      obtain ⟨items, carried, each⟩ := childrenOfCarried children
      exact ⟨members, items, rfl, carried, (childItemsEach each).imp fun _ _ h => ih h, own⟩

theorem checkCountWhole {n : Node}
    (whole : n.children = [] ∨ (n.children.length : Int) = n.numChildren) :
    checkCount n = .ok n := by
  rcases whole with none | all
  · simp [checkCount, none]
  · simp [checkCount, isMaterialized, all]

theorem assembledNode {m members n} (own : Assembled m members n) :
    assemble m members (.ok n.children) = .ok n := by
  have checked := checkCountWhole own.whole
  cases n
  simp only [assemble, own.id, own.name, own.kind, own.location, own.count, own.synthetic,
    own.revealed, own.facet]
  exact checked

theorem eachChildItems {m levels items ns}
    (each : List.Forall₂ (fun v n => decode m levels v = .ok n) items ns) (i : Nat) :
    childItems m levels i items = .ok ns := by
  induction each generalizing i with
  | nil => rfl
  | cons head tail ih => simp [childItems, head, ih, Schema.Checked.under]

theorem carriedChildrenOf {m levels members items ns} (carried : Carried members items)
    (read : childItems m levels 0 items = .ok ns) : childrenOf m levels members = .ok ns := by
  induction members with
  | nil =>
    rcases carried with ⟨_, rfl⟩ | there
    · exact read
    · cases there
  | cons head rest ih =>
    obtain ⟨k, v⟩ := head
    by_cases here : k = "children"
    · rcases carried with ⟨absent, _⟩ | there
      · simp [Json.member, here] at absent
      · have list : v = .list items := by simpa [Json.member, here] using there
        simp [childrenOf, here, list, childList, read, Schema.Checked.under]
    · simp only [childrenOf, if_neg here]
      exact ih (by simpa only [Carried, Json.member, if_neg here] using carried)

theorem readsDecode {m levels v n} (reads : Reads m levels v n) : decode m levels v = .ok n := by
  induction levels generalizing v n with
  | zero => exact reads.elim
  | succ levels ih =>
    obtain ⟨members, items, rfl, carried, each, own⟩ := reads
    have children := carriedChildrenOf carried (eachChildItems (each.imp fun _ _ => ih) 0)
    simp only [decode, children, assembledNode own]

theorem wireReads {m v n} (ok : ofWire m v = .ok n) : Reads m levelLimit v n := by
  cases v with
  | scalar s => simp [ofWire] at ok
  | list items => simp [ofWire] at ok
  | object members =>
    simp only [ofWire] at ok
    split at ok
    · rename_i read
      cases ok
      exact decodeReads read
    · contradiction

theorem readsWire {m v n} (reads : Reads m levelLimit v n) : ofWire m v = .ok n := by
  have decoded := readsDecode reads
  obtain ⟨members, items, rfl, _⟩ := reads
  simp [ofWire, decoded]

theorem readsItem {m levels items ns v} (each : List.Forall₂ (Reads m levels) items ns)
    (item : v ∈ items) : ∃ c ∈ ns, Reads m levels v c := by
  induction each with
  | nil => simp at item
  | cons head tail ih =>
    rcases List.mem_cons.mp item with rfl | inside
    · exact ⟨_, List.mem_cons_self, head⟩
    · obtain ⟨c, mem, read⟩ := ih inside
      exact ⟨c, List.mem_cons_of_mem _ mem, read⟩

theorem readsChild {m levels items ns c} (each : List.Forall₂ (Reads m levels) items ns)
    (child : c ∈ ns) : ∃ v ∈ items, Reads m levels v c := by
  induction each with
  | nil => simp at child
  | cons head tail ih =>
    rcases List.mem_cons.mp child with rfl | inside
    · exact ⟨_, List.mem_cons_self, head⟩
    · obtain ⟨v, mem, read⟩ := ih inside
      exact ⟨v, List.mem_cons_of_mem _ mem, read⟩

theorem readsEverywhere {m : Model} {P : Node → Prop}
    (node : ∀ members n, Assembled m members n → P n) {levels v n} (reads : Reads m levels v n) :
    n.Everywhere P := by
  induction levels generalizing v n with
  | zero => exact reads.elim
  | succ levels ih =>
    obtain ⟨members, items, rfl, _, each, own⟩ := reads
    refine everywhereOf (node members n own) ?_
    intro c child
    obtain ⟨item, _, read⟩ := readsChild each child
    exact ih read

end Node
end SymbolHierarchy
