import SymbolHierarchy.Node.Basic

/-! Directions of an inheritance tree, and the group that holds the supertypes
of its root. -/
namespace SymbolHierarchy

def Facet.tagged (wantsDerived : Bool) : Facet → Facet
  | .inheritance _ => .inheritance wantsDerived
  | .plain => .plain
  | .call t => .call t

def Facet.wantsDerived : Facet → Bool
  | .inheritance d => d
  | .plain => true
  | .call _ => true

namespace Node

def wantsDerived (n : Node) : Bool := n.facet.wantsDerived

mutual
def withDirection (d : Bool) : Node → Node
  | .mk s f n cs y r => .mk s (f.tagged d) n (withDirectionAll d cs) y r
def withDirectionAll (d : Bool) : List Node → List Node
  | [] => []
  | n :: rest => withDirection d n :: withDirectionAll d rest
end

def groupName : String := "[[Base]]"

def baseGroup (supertypes : List Node) : Node :=
  .mk ⟨none, groupName, none, none⟩ (.inheritance false) supertypes.length
    (withDirectionAll false supertypes) true false

def withGroup (entry group : Node) : Node :=
  .mk entry.symbol entry.facet (entry.numChildren + 1) (group :: entry.children)
    entry.synthetic entry.revealed

/-- One root of the two views of a type. Without supertypes it is the derived
view alone; otherwise that view must have its children at hand. -/
def merge (entry base : Node) : Except (String × Int) Node :=
  if base.numChildren == 0 then .ok entry
  else if !entry.isMaterialized then .error (entry.name, entry.numChildren)
  else .ok (entry.withGroup (baseGroup base.children))

end Node
end SymbolHierarchy
