import SymbolHierarchy.Node.Basic

/-! Writing a node tree as a payload. A null is left out at every level, and so
is what only this side knows. A tree is written in the form of its root's hierarchy,
also where a node of the other one has come below it. -/
namespace SymbolHierarchy

def Position.wire (p : Position) : Json :=
  .object [("line", .int p.line), ("character", .int p.character)]

def Range.wire (r : Range) : Json :=
  .object [("start", r.start.wire), ("end", r.stop.wire)]

def Location.wire (l : Location) : Json :=
  .object [("uri", .text l.uri), ("range", l.range.wire)]

def Symbol.members (s : Symbol) : List (String × Json) :=
  (s.id.map fun i => ("id", Json.scalar i.scalar)).toList ++
    [("name", Json.text s.name)] ++
    (s.kind.map fun k => ("kind", Json.int k)).toList ++
    (s.location.map fun l => ("location", l.wire)).toList

def Facet.model : Facet → Model
  | .plain => .base
  | .call _ => .call
  | .inheritance _ => .inheritance

def Facet.members : Model → Facet → List (String × Json)
  | .call, .call t => [("callType", .int t.code)]
  | _, _ => []

namespace Node

mutual
def wireIn (m : Model) : Node → Json
  | .mk s f n cs _ _ =>
    .object (s.members ++ [("numChildren", .int n), ("children", .list (wireAllIn m cs))] ++
      f.members m)
def wireAllIn (m : Model) : List Node → List Json
  | [] => []
  | n :: rest => wireIn m n :: wireAllIn m rest
end

def wire (n : Node) : Json := wireIn n.facet.model n

end Node
end SymbolHierarchy
