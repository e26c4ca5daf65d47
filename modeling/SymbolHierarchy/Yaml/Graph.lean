import SymbolHierarchy.Yaml.Tag

/-! The nodes of a document, in a table that names them by their places. An alias
names a node once more, so that several collections may hold one node, and a
collection may hold itself. -/
namespace SymbolHierarchy.Yaml

inductive Shape
  | scalar (text : String) (points : List Nat)
  | sequence (items : List Nat)
  | mapping (entries : List (Nat × Nat))
  deriving Repr

structure Vertex where
  tag : Tag
  shape : Shape
  deriving Repr

namespace Vertex

def empty : Vertex := ⟨.null, .scalar "" []⟩

instance : Inhabited Vertex := ⟨empty⟩

end Vertex

structure Graph where
  vertices : Array Vertex := #[]
  deriving Repr

namespace Graph

def size (g : Graph) : Nat := g.vertices.size

def vertex (g : Graph) (id : Nat) : Vertex := g.vertices.getD id .empty

def add (g : Graph) (v : Vertex) : Graph := ⟨g.vertices.push v⟩

def setShape (g : Graph) (id : Nat) (s : Shape) : Graph :=
  ⟨g.vertices.modify id fun v => { v with shape := s }⟩

def setTag (g : Graph) (id : Nat) (t : Tag) : Graph :=
  ⟨g.vertices.modify id fun v => { v with tag := t }⟩

end Graph
end SymbolHierarchy.Yaml
