import SymbolHierarchy.Node.Encode
import SymbolHierarchy.Proofs.Node.Facing
import SymbolHierarchy.Proofs.Node.Whole

/-! The members of a node one by one: what the check of a member makes of a value of the member's own
sort, and the limits it sets to locations and calls. -/
namespace SymbolHierarchy

def Position.InRange (p : Position) : Prop :=
  0 ≤ p.line ∧ p.line ≤ 2147483647 ∧ 0 ≤ p.character ∧ p.character ≤ 2147483647

def Location.InRange (l : Location) : Prop := l.range.start.InRange ∧ l.range.stop.InRange

def Position.Stated (v : Json) (p : Position) : Prop :=
  v.get? "line" = some (.int p.line) ∧ v.get? "character" = some (.int p.character) ∧ p.InRange

structure Location.Stated (v : Json) (l : Location) : Prop where
  uri : v.get? "uri" = some (.text l.uri)
  range : ∃ range start stop, v.get? "range" = some range ∧ range.get? "start" = some start ∧
    range.get? "end" = some stop ∧ l.range.start.Stated start ∧ l.range.stop.Stated stop

namespace Node

section Read

theorem idRead (i : Option NodeId) : idField (.scalar (idScalar i)) = .ok i := by
  cases i with
  | none => rfl
  | some i => cases i <;> rfl

theorem nameRead (s : String) : scalarField Schema.text (.text s) = .ok s := rfl

theorem kindRead (k : Int) : scalarField (Schema.optional Schema.int) (.int k) = .ok (some k) := rfl

theorem kindNull : scalarField (Schema.optional Schema.int) .null = .ok none := rfl

theorem countRead {n k : Int} :
    scalarField (Schema.intFrom 0) (.int n) = .ok k ↔ k = n ∧ 0 ≤ n := by
  have int : Schema.intFrom 0 (some (.int n)) = if n < 0 then .error .tooSmall else .ok n := rfl
  have same : scalarField (Schema.intFrom 0) (.int n) =
      Schema.ofViolation (if n < 0 then .error .tooSmall else .ok n) := by
    rw [← int]
    rfl
  rw [same]
  split
  · simp [Schema.ofViolation, Schema.fault]
    omega
  · simp [Schema.ofViolation]
    omega

theorem callTypeRead (t : CallType) : callTypeField (.int t.code) = .ok t := by
  cases t <;> rfl

theorem coordinateRead {v : Json} {name : String} {n : Int} (there : v.get? name = some (.int n))
    (low : 0 ≤ n) (high : n ≤ 2147483647) : coordinate name v = some n := by
  simp [coordinate, there, Json.scalar?, Schema.wholePart, coordinateLimit, low, high]

theorem positionRead {v p : Json} {name : String} {at_ : Position} (there : v.get? name = some p)
    (stated : at_.Stated p) : position name v = some at_ := by
  obtain ⟨line, character, low, high, left, right⟩ := stated
  simp [position, there, coordinateRead line low high, coordinateRead character left right]

theorem locationRead {v : Json} {l : Location} (stated : l.Stated v) :
    locationField v = .ok (some l) := by
  obtain ⟨uri, range, start, stop, there, first, last, left, right⟩ := stated
  have read : locationOf v = some l := by
    simp [locationOf, uri, there, positionRead first left, positionRead last right, Json.plainText]
  have object : v.isNull = false := by
    cases v with
    | object => rfl
    | _ => simp [Json.get?] at uri
  simp [locationField, object, read]

end Read

section Limits

theorem coordinateBounds {v : Json} {name : String} {n : Int} (read : coordinate name v = some n) :
    0 ≤ n ∧ n ≤ 2147483647 := by
  simp only [coordinate, bind, Option.bind_eq_some_iff] at read
  obtain ⟨_, _, _, _, k, _, limits⟩ := read
  split at limits
  · rename_i bounds
    cases limits
    exact bounds
  · cases limits

theorem positionBounds {v : Json} {name : String} {p : Position}
    (read : position name v = some p) : p.InRange := by
  simp only [position, bind, Option.bind_eq_some_iff] at read
  obtain ⟨_, _, line, first, character, second, same⟩ := read
  cases same
  obtain ⟨low, high⟩ := coordinateBounds first
  obtain ⟨left, right⟩ := coordinateBounds second
  exact ⟨low, high, left, right⟩

theorem locationBounds {v : Json} {l : Location} (read : locationField v = .ok (some l)) :
    l.InRange := by
  simp only [locationField] at read
  split at read
  · cases read
  · split at read
    · rename_i found
      cases read
      simp only [locationOf, bind, Option.bind_eq_some_iff] at found
      obtain ⟨_, _, _, _, start, first, stop, last, same⟩ := found
      cases same
      exact ⟨positionBounds first, positionBounds last⟩
    · simp [Schema.fault] at read

theorem assembledLocation {m members n l} (own : Assembled m members n)
    (there : n.location = some l) : l.InRange := by
  have place : n.symbol.location = some l := there
  have read := own.location
  rw [place] at read
  rcases fieldOk.mp read with ⟨v, _, told⟩ | ⟨_, absent⟩
  · exact locationBounds told
  · cases absent

theorem assembledModel {m members n} (own : Assembled m members n) : n.facet.model = m := by
  have facet := own.facet
  cases m with
  | base =>
    have plain : Facet.plain = n.facet := Except.ok.inj facet
    simp [← plain, Facet.model]
  | call =>
    simp only [facetField] at facet
    cases said : field members "callType" "call_type" (.ok .normal) callTypeField with
    | ok t =>
      rw [said] at facet
      have called : Facet.call t = n.facet := Except.ok.inj facet
      simp [← called, Facet.model]
    | error ds => simp [said, Except.map] at facet
  | inheritance =>
    obtain ⟨d, facing⟩ := assembledDirected own
    simp [facing, Facet.model]

structure Bounded (m : Model) (n : Node) : Prop where
  count : 0 ≤ n.numChildren
  children : n.children = [] ∨ (n.children.length : Int) = n.numChildren
  location : ∀ l, n.location = some l → l.InRange
  model : n.facet.model = m
  callType : ∀ t, n.facet = .call t → 0 ≤ t.code ∧ t.code ≤ 3

theorem assembledBounded {m members n} (own : Assembled m members n) : n.Bounded m where
  count := countReads own.count
  children := own.whole
  location _ there := assembledLocation own there
  model := assembledModel own
  callType t _ := by cases t <;> decide

theorem readsBounded {m levels v n} (reads : Reads m levels v n) : n.Everywhere (Bounded m) :=
  readsEverywhere (fun _ _ own => assembledBounded own) reads

end Limits

end Node
end SymbolHierarchy
