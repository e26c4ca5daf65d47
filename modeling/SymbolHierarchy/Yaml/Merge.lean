import SymbolHierarchy.Yaml.Flaw
import SymbolHierarchy.Yaml.Graph

/-! Merges. An entry under the merge sign brings in the entries of other mappings, in front
of a mapping's own, so that its own win. A merge is carried out once, in the graph
itself: a mapping that is held twice, or that is merged into itself, has no merges left
when it is met again. -/
namespace SymbolHierarchy.Yaml.Graph

def entries (g : Graph) (id : Nat) : List (Nat × Nat) :=
  match (g.vertex id).shape with
  | .mapping es => es
  | _ => []

def isMerge (g : Graph) (e : Nat × Nat) : Bool := (g.vertex e.1).tag = .merge

def merges (g : Graph) : Nat :=
  (List.range g.size).foldl (fun n id => n + (g.entries id).countP g.isMerge) 0

def firstMerge (g : Graph) : List (Nat × Nat) → Option (Nat × List (Nat × Nat))
  | [] => none
  | e :: rest =>
    if g.isMerge e then some (e.2, rest)
    else (firstMerge g rest).map fun m => (m.1, e :: m.2)

def plainKey (g : Graph) (e : Nat × Nat) : Graph :=
  if (g.vertex e.1).tag = .value then g.setTag e.1 .str else g

def bring (settle : Nat → Graph → Scan Graph) (id : Nat) (g : Graph) :
    Scan (List (Nat × Nat) × Graph) :=
  match (g.vertex id).shape with
  | .mapping _ => do
    let g ← settle id g
    .ok (g.entries id, g)
  | .sequence items =>
    items.foldlM (fun (found, g) item =>
      match (g.vertex item).shape with
      | .mapping _ => do
        let g ← settle item g
        .ok (g.entries item ++ found, g)
      | _ => refuse) ([], g)
  | .scalar _ _ => refuse

mutual
def settle : Nat → Nat → Graph → Scan Graph
  | 0, _, _ => refuse
  | n + 1, id, g => do
    let (brought, g) ← bringAll n id g
    let own := g.entries id
    .ok ((own.foldl plainKey g).setShape id (.mapping (brought ++ own)))
def bringAll : Nat → Nat → Graph → Scan (List (Nat × Nat) × Graph)
  | 0, _, _ => refuse
  | n + 1, id, g =>
    match g.firstMerge (g.entries id) with
    | none => .ok ([], g)
    | some (source, others) => do
      let (first, g) ← bring (settle n) source (g.setShape id (.mapping others))
      let (more, g) ← bringAll n id g
      .ok (first ++ more, g)
end

end SymbolHierarchy.Yaml.Graph
