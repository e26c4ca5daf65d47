import SymbolHierarchy.Data.Json

/-! Decoded replies. An object may come as a record with attributes and a list as
a tuple, whatever the transport makes of it; their plain form has neither. -/
namespace SymbolHierarchy.Server

inductive Value
  | scalar (s : Scalar)
  | list (items : List Value)
  | tuple (items : List Value)
  | object (members : List (String × Value))
  | record (members : List (String × Value))
  deriving Repr, Inhabited

namespace Value

mutual
def plain : Value → Json
  | .scalar s => .scalar s
  | .list items => .list (plainItems items)
  | .tuple items => .list (plainItems items)
  | .object members => .object (plainMembers members)
  | .record members => .object (plainMembers members)
def plainItems : List Value → List Json
  | [] => []
  | v :: rest => plain v :: plainItems rest
def plainMembers : List (String × Value) → List (String × Json)
  | [] => []
  | (k, v) :: rest => (k, plain v) :: plainMembers rest
end

mutual
def ofJson : Json → Value
  | .scalar s => .scalar s
  | .list items => .list (ofItems items)
  | .object members => .object (ofMembers members)
def ofItems : List Json → List Value
  | [] => []
  | v :: rest => ofJson v :: ofItems rest
def ofMembers : List (String × Json) → List (String × Value)
  | [] => []
  | (k, v) :: rest => (k, ofJson v) :: ofMembers rest
end

end Value
end SymbolHierarchy.Server
