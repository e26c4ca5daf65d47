import SymbolHierarchy.Proofs.Node.Reads

/-! Members of a payload that its schema has no name for. Without them, at whatever depth, a
payload reads as before and is refused as before. -/
namespace SymbolHierarchy

def Model.names : Model → List String
  | .base => shared
  | .call => shared ++ ["callType", "call_type"]
  | .inheritance => shared ++ ["wants_derived"]
where
  shared : List String := ["id", "name", "kind", "location", "numChildren", "num_children",
    "children", "synthetic", "revealed"]

namespace Json

def restricted (names : List String) (form : String → Json → Json) : Json → Json
  | .object members =>
    .object ((members.filter fun p => p.1 ∈ names).map fun p => (p.1, form p.1 p.2))
  | .scalar s => .scalar s
  | .list items => .list items

def positionTrimmed : Json → Json := restricted ["line", "character"] fun _ v => v

def rangeTrimmed : Json → Json := restricted ["start", "end"] fun _ v => v.positionTrimmed

def locationTrimmed : Json → Json :=
  restricted ["uri", "range"] fun key v => if key = "range" then v.rangeTrimmed else v

mutual
def trimmed (m : Model) : Json → Json
  | .object members => .object (membersTrimmed m members)
  | .scalar s => .scalar s
  | .list items => .list items
def membersTrimmed (m : Model) : List (String × Json) → List (String × Json)
  | [] => []
  | (k, v) :: rest =>
    if k = "children" then (k, listTrimmed m v) :: membersTrimmed m rest
    else if k = "location" then (k, v.locationTrimmed) :: membersTrimmed m rest
    else if k ∈ m.names then (k, v) :: membersTrimmed m rest
    else membersTrimmed m rest
def listTrimmed (m : Model) : Json → Json
  | .list items => .list (itemsTrimmed m items)
  | .scalar s => .scalar s
  | .object members => .object members
def itemsTrimmed (m : Model) : List Json → List Json
  | [] => []
  | v :: rest => trimmed m v :: itemsTrimmed m rest
end

section Lookups

variable {names : List String} {form : String → Json → Json} {key : String} {m : Model}

theorem restrictedGet (known : key ∈ names) (v : Json) :
    (restricted names form v).get? key = (v.get? key).map (form key) := by
  cases v with
  | scalar s => rfl
  | list items => rfl
  | object members =>
    simp only [restricted, get?]
    induction members with
    | nil => rfl
    | cons head rest ih =>
      obtain ⟨k, v⟩ := head
      by_cases here : k = key
      · subst here
        simp [known, member]
      · by_cases kept : k ∈ names
        · simpa [kept, member, here] using ih
        · simpa [kept, member, here] using ih

theorem membersTrimmedMember (known : key ∈ m.names) (list : key ≠ "children")
    (place : key ≠ "location") (members : List (String × Json)) :
    member key (membersTrimmed m members) = member key members := by
  induction members with
  | nil => rfl
  | cons head rest ih =>
    obtain ⟨k, v⟩ := head
    by_cases here : k = key
    · subst here
      simp [membersTrimmed, list, place, known, member]
    · simp only [membersTrimmed]
      split_ifs <;> simp [member, here, ih]

theorem membersTrimmedLocation (members : List (String × Json)) :
    member "location" (membersTrimmed m members) =
      (member "location" members).map locationTrimmed := by
  induction members with
  | nil => rfl
  | cons head rest ih =>
    obtain ⟨k, v⟩ := head
    by_cases here : k = "location"
    · simp [membersTrimmed, here, member]
    · simp only [membersTrimmed]
      split_ifs <;> simp [member, here, ih]

end Lookups

end Json

namespace Node

section Location

variable {name : String}

theorem coordinateTrimmed (known : name ∈ ["line", "character"]) (v : Json) :
    coordinate name v.positionTrimmed = coordinate name v := by
  simp [coordinate, Json.positionTrimmed, Json.restrictedGet known]

theorem positionTrimmed (known : name ∈ ["start", "end"]) (v : Json) :
    position name v.rangeTrimmed = position name v := by
  rw [position, position, Json.rangeTrimmed, Json.restrictedGet known]
  cases v.get? name with
  | none => rfl
  | some p => simp [coordinateTrimmed]

theorem locationTrimmed (v : Json) : locationOf v.locationTrimmed = locationOf v := by
  rw [locationOf, locationOf, Json.locationTrimmed, Json.restrictedGet (by simp),
    Json.restrictedGet (by simp)]
  cases v.get? "uri" with
  | none => rfl
  | some uri =>
    cases v.get? "range" with
    | none => rfl
    | some range => simp [positionTrimmed]

theorem locationFieldTrimmed (v : Json) : locationField v.locationTrimmed = locationField v := by
  have null : v.locationTrimmed.isNull = v.isNull := by
    cases v <;> rfl
  simp only [locationField, null, locationTrimmed]

end Location

section Trimmed

variable {m : Model} {α : Type} {absent : Schema.Checked α} {read : Json → Schema.Checked α}

theorem fieldTrimmed {wire plain : String} (known : wire ∈ m.names ∧ plain ∈ m.names)
    (list : wire ≠ "children" ∧ plain ≠ "children")
    (place : wire ≠ "location" ∧ plain ≠ "location") (members : List (String × Json)) :
    field (Json.membersTrimmed m members) wire plain absent read =
      field members wire plain absent read := by
  simp only [field, Json.membersTrimmedMember known.1 list.1 place.1,
    Json.membersTrimmedMember known.2 list.2 place.2]

theorem locationMemberTrimmed (members : List (String × Json)) :
    field (Json.membersTrimmed m members) "location" "location" (.ok none) locationField =
      field members "location" "location" (.ok none) locationField := by
  simp only [field, Json.membersTrimmedLocation]
  cases Json.member "location" members with
  | none => rfl
  | some v => simp only [Option.map_some, locationFieldTrimmed]

theorem namesShared (m : Model) : Model.names.shared ⊆ m.names := by
  cases m <;> simp [Model.names]

theorem facetTrimmed (members : List (String × Json)) :
    facetField m (Json.membersTrimmed m members) = facetField m members := by
  cases m with
  | base => rfl
  | call => rw [facetField, fieldTrimmed (by decide) (by decide) (by decide), facetField]
  | inheritance => rw [facetField, fieldTrimmed (by decide) (by decide) (by decide), facetField]

theorem assembleTrimmed (members : List (String × Json)) (children : Schema.Checked (List Node)) :
    assemble m (Json.membersTrimmed m members) children = assemble m members children := by
  have shared := namesShared m
  have id : "id" ∈ m.names := shared (by decide)
  have name : "name" ∈ m.names := shared (by decide)
  have kind : "kind" ∈ m.names := shared (by decide)
  have count : "numChildren" ∈ m.names ∧ "num_children" ∈ m.names :=
    ⟨shared (by decide), shared (by decide)⟩
  have synthetic : "synthetic" ∈ m.names := shared (by decide)
  have revealed : "revealed" ∈ m.names := shared (by decide)
  simp only [assemble, locationMemberTrimmed, facetTrimmed,
    fieldTrimmed ⟨id, id⟩ (by decide) (by decide),
    fieldTrimmed ⟨name, name⟩ (by decide) (by decide),
    fieldTrimmed ⟨kind, kind⟩ (by decide) (by decide),
    fieldTrimmed count (by decide) (by decide),
    fieldTrimmed ⟨synthetic, synthetic⟩ (by decide) (by decide),
    fieldTrimmed ⟨revealed, revealed⟩ (by decide) (by decide)]

mutual
theorem decodeTrimmed (m : Model) (levels : Nat) (v : Json) :
    decode m levels (v.trimmed m) = decode m levels v := by
  cases v with
  | scalar s => rfl
  | list items => rfl
  | object members =>
    cases levels with
    | zero => rfl
    | succ below =>
      simp only [Json.trimmed, decode, childrenTrimmed m below members, assembleTrimmed]
theorem childrenTrimmed (m : Model) (levels : Nat) (members : List (String × Json)) :
    childrenOf m levels (Json.membersTrimmed m members) = childrenOf m levels members := by
  cases members with
  | nil => rfl
  | cons head rest =>
    obtain ⟨k, v⟩ := head
    have below := childrenTrimmed m levels rest
    by_cases here : k = "children"
    · simp only [Json.membersTrimmed, if_pos here, childrenOf, listTrimmed m levels v]
    · simp only [Json.membersTrimmed, if_neg here]
      split_ifs <;> simp only [childrenOf, if_neg here, below]
theorem listTrimmed (m : Model) (levels : Nat) (v : Json) :
    childList m levels (v.listTrimmed m) = childList m levels v := by
  cases v with
  | scalar s => rfl
  | object members => rfl
  | list items => simp only [Json.listTrimmed, childList, itemsTrimmed m levels 0 items]
theorem itemsTrimmed (m : Model) (levels i : Nat) (items : List Json) :
    childItems m levels i (Json.itemsTrimmed m items) = childItems m levels i items := by
  cases items with
  | nil => rfl
  | cons v rest =>
    simp only [Json.itemsTrimmed, childItems, decodeTrimmed m levels v,
      itemsTrimmed m levels (i + 1) rest]
end

theorem wireTrimmed (m : Model) (v : Json) : ofWire m (v.trimmed m) = ofWire m v := by
  cases v with
  | scalar s => rfl
  | list items => rfl
  | object members =>
    have same := decodeTrimmed m levelLimit (.object members)
    simp only [Json.trimmed] at same
    simp only [Json.trimmed, ofWire, same]

end Trimmed

end Node
end SymbolHierarchy
