import SymbolHierarchy.Node.Encode
import SymbolHierarchy.Node.Direction
import SymbolHierarchy.Node.Decode
import SymbolHierarchy.Fault

/-! Queries that a session sends. A query names its target by a position in a
document or by an id; what it leaves open is left out of its parameters. -/
namespace SymbolHierarchy

inductive Kind
  | call
  | inheritance
  deriving DecidableEq, Repr

def Kind.name : Kind → String
  | .call => "call"
  | .inheritance => "inheritance"

def Kind.other : Kind → Kind
  | .call => .inheritance
  | .inheritance => .call

def Kind.all : List Kind := [.call, .inheritance]

def Kind.ofName? (s : String) : Option Kind := Kind.all.find? fun k => k.name = s

theorem Kind.ofName (k : Kind) : Kind.ofName? k.name = some k := by
  cases k <;> rfl

def Kind.model : Kind → Model
  | .call => .call
  | .inheritance => .inheritance

structure DocumentPosition where
  uri : String
  position : Position
  deriving DecidableEq, Repr

def Position.checked (line character : Int) : Except Raised Position :=
  if line < 0 ∨ Node.coordinateLimit < line then
    .error (.coordinate "Position.line" (toString line))
  else if character < 0 ∨ Node.coordinateLimit < character then
    .error (.coordinate "Position.character" (toString character))
  else .ok ⟨line, character⟩

def DocumentPosition.ofEditor (uri : String) (line column : Int) :
    Except Raised DocumentPosition := do
  if line < 1 ∨ column < 1 then .error (.badArgument "LINE and COLUMN are 1-based")
  else .ok ⟨uri, ← Position.checked (line - 1) (column - 1)⟩

def DocumentPosition.documentMembers (p : DocumentPosition) : List (String × Json) :=
  [("uri", .text p.uri)]

structure CallQuery where
  textDocument : Option Json := none
  position : Option Json := none
  id : Option NodeId := none
  callee : Bool := false
  callType : CallType := .all
  qualified : Bool := false
  levels : Int := 1
  hierarchy : Bool := true

structure InheritanceQuery where
  textDocument : Option Json := none
  position : Option Json := none
  id : Option NodeId := none
  kind : Option Int := none
  derived : Bool := true
  qualified : Bool := false
  levels : Int := 1
  hierarchy : Bool := true

def targetMembers (textDocument position : Option Json) (id : Option NodeId) :
    List (String × Json) :=
  (textDocument.map fun v => ("textDocument", v)).toList ++
    (position.map fun v => ("position", v)).toList ++
    (id.map fun i => ("id", Json.scalar i.scalar)).toList

def CallQuery.params (q : CallQuery) : Json :=
  .object (targetMembers q.textDocument q.position q.id ++
    [("callee", .bool q.callee), ("callType", .int q.callType.code),
     ("qualified", .bool q.qualified), ("levels", .int q.levels), ("hierarchy", .bool q.hierarchy)])

def InheritanceQuery.params (q : InheritanceQuery) : Json :=
  .object (targetMembers q.textDocument q.position q.id ++
    (q.kind.map fun k => ("kind", Json.int k)).toList ++
    [("derived", .bool q.derived), ("qualified", .bool q.qualified), ("levels", .int q.levels),
     ("hierarchy", .bool q.hierarchy)])

def rootLevels : Int := 2

def Kind.rootParams (k : Kind) (p : DocumentPosition) : Json :=
  let document := some (Json.object p.documentMembers)
  let position := some p.position.wire
  match k with
  | .call =>
    (CallQuery.params { textDocument := document, position := position, levels := rootLevels })
  | .inheritance =>
    (InheritanceQuery.params { textDocument := document, position := position })

def baseParams (s : Symbol) : Json :=
  (InheritanceQuery.params { id := s.id, kind := s.kind, derived := false })

/-- The query for one more level below a node. That of an inheritance hierarchy needs a
direction, which only its own nodes have. -/
def Kind.expansionParams (k : Kind) (s : Symbol) (f : Facet) : Except Raised Json :=
  match k, f with
  | .call, _ => .ok (CallQuery.params { id := s.id })
  | .inheritance, .inheritance d =>
    .ok (InheritanceQuery.params { id := s.id, kind := s.kind, derived := d })
  | .inheritance, _ => .error .noSuchMember

end SymbolHierarchy
