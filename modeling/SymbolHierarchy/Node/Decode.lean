import SymbolHierarchy.Node.Basic
import SymbolHierarchy.Schema.Lenient

/-! Reading a node tree from a payload. Every field is checked before a node is
refused; the count of its children is compared with those it carries only once
all fields are in order. Unknown members are skipped. -/
namespace SymbolHierarchy.Node
open Schema (Checked Detail Step Violation)

def coordinateLimit : Int := 2147483647

def coordinate (name : String) (v : Json) : Option Int := do
  let s ← (← v.get? name).scalar?
  let n ← Schema.wholePart s
  if 0 ≤ n ∧ n ≤ coordinateLimit then some n else none

def position (name : String) (v : Json) : Option Position := do
  let p ← v.get? name
  some ⟨← coordinate "line" p, ← coordinate "character" p⟩

def locationOf (v : Json) : Option Location := do
  let uri ← v.get? "uri"
  let range ← v.get? "range"
  some ⟨uri.plainText, ⟨← position "start" range, ← position "end" range⟩⟩

def badLocation : Violation := .rule "invalid location"

def field {α : Type} (members : List (String × Json)) (wire plain : String)
    (absent : Checked α) (read : Json → Checked α) : Checked α :=
  match Json.member wire members with
  | some v => (read v).under (.field wire)
  | none =>
    match Json.member plain members with
    | some v => (read v).under (.field plain)
    | none => absent.under (.field wire)

def scalarField {α : Type} (read : Option Scalar → Except Violation α) (v : Json) : Checked α :=
  Schema.ofViolation (read v.scalar?)

/-- An id is a number, a text or null; anything else is tried as a number, and
its failure is told for both. -/
def idField (v : Json) : Checked (Option NodeId) :=
  match v.scalar? with
  | some .null => .ok none
  | some (.text s) => .ok (some (.text s))
  | s =>
    match Schema.int s with
    | .ok n => .ok (some (.int n))
    | .error e => .error [⟨[.field "int"], e⟩, ⟨[.field "str"], .stringType⟩]

def locationField (v : Json) : Checked (Option Location) :=
  if v.isNull then .ok none
  else match locationOf v with
    | some l => .ok (some l)
    | none => Schema.fault badLocation

def callTypeField (v : Json) : Checked CallType :=
  match Schema.int v.scalar? with
  | .error _ => Schema.fault .enumMember
  | .ok n =>
    if n < Schema.wordMin ∨ Schema.wordMax < n then Schema.fault .intParsingSize
    else match CallType.ofCode? n with
      | some t => .ok t
      | none => Schema.fault .enumMember

def facetField (m : Model) (members : List (String × Json)) : Checked Facet :=
  match m with
  | .base => .ok .plain
  | .call =>
    (field members "callType" "call_type" (.ok .normal) callTypeField).map .call
  | .inheritance =>
    (field members "wants_derived" "wants_derived" (.ok true) (scalarField Schema.truth)).map
      .inheritance

/-- A node carries no child or as many as it reports. -/
def checkCount (n : Node) : Checked Node :=
  if n.children.isEmpty || n.isMaterialized then .ok n
  else
    Schema.fault (.rule ("node " ++ (idScalar n.id).literal ++ " reports numChildren=" ++
      toString n.numChildren ++ " but carries " ++ toString n.children.length ++ " children"))

def assemble (m : Model) (members : List (String × Json))
    (children : Checked (List Node)) : Checked Node :=
  let id := field members "id" "id" (Schema.fault .missing) idField
  let name := field members "name" "name" (Schema.fault .missing) (scalarField Schema.text)
  let kind := field members "kind" "kind" (.ok none) (scalarField (Schema.optional Schema.int))
  let location := field members "location" "location" (.ok none) locationField
  let count := field members "numChildren" "num_children" (Schema.fault .missing)
    (scalarField (Schema.intFrom 0))
  let synthetic := field members "synthetic" "synthetic" (.ok false) (scalarField Schema.truth)
  let revealed := field members "revealed" "revealed" (.ok false) (scalarField Schema.truth)
  let facet := facetField m members
  match id, name, kind, location, count, children, synthetic, revealed, facet with
  | .ok id, .ok name, .ok kind, .ok location, .ok count, .ok children, .ok synthetic,
      .ok revealed, .ok facet =>
    checkCount (.mk ⟨id, name, kind, location⟩ facet count children synthetic revealed)
  | _, _, _, _, _, _, _, _, _ =>
    .error (id.details ++ name.details ++ kind.details ++ location.details ++ count.details ++
      children.details ++ synthetic.details ++ revealed.details ++ facet.details)

/-- A payload carries this many levels of nodes at most. -/
def levelLimit : Nat := 255

mutual
def decode (m : Model) (levels : Nat) : Json → Checked Node
  | .object members =>
    match levels with
    | 0 => Schema.fault .tooDeep
    | below + 1 => assemble m members (childrenOf m below members)
  | .scalar _ => Schema.fault (if levels = 0 then .tooDeep else .modelType)
  | .list _ => Schema.fault (if levels = 0 then .tooDeep else .modelType)
def childrenOf (m : Model) (levels : Nat) : List (String × Json) → Checked (List Node)
  | [] => .ok []
  | (k, v) :: rest =>
    if k = "children" then (childList m levels v).under (.field "children")
    else childrenOf m levels rest
def childList (m : Model) (levels : Nat) : Json → Checked (List Node)
  | .list items => childItems m levels 0 items
  | .scalar _ => Schema.fault .listType
  | .object _ => Schema.fault .listType
def childItems (m : Model) (levels : Nat) (i : Nat) : List Json → Checked (List Node)
  | [] => .ok []
  | v :: rest =>
    match (decode m levels v).under (.index i), childItems m levels (i + 1) rest with
    | .ok n, .ok ns => .ok (n :: ns)
    | a, b => .error (a.details ++ b.details)
end

inductive Malformed
  | notObject (sort : String)
  | schema (report : Schema.Report)
  | unmaterialized (name : String) (count : Int)
  | other (text : String)
  deriving DecidableEq, Repr

def ofWire (m : Model) (v : Json) : Except Malformed Node :=
  match v with
  | .object _ =>
    match decode m levelLimit v with
    | .ok n => .ok n
    | .error ds => .error (.schema ⟨m.name, ds⟩)
  | v => .error (.notObject v.sortName)

end SymbolHierarchy.Node
