import SymbolHierarchy.Data.Document
import SymbolHierarchy.Yaml.Grammar
import SymbolHierarchy.Yaml.Merge
import SymbolHierarchy.Yaml.Scalar

/-! The value of a document. Scalars have theirs at once; collections are opened when
they are met and filled level by level, so that the first flaw told is the one nearest
to the root. Of two entries with one key the last value stands. -/
namespace SymbolHierarchy.Yaml

inductive Built
  | leaf (d : Document)
  | list (items : List Nat)
  | pairs (items : List (Nat × Nat))
  | mapping (entries : List (Nat × Nat))
  | set (items : List Nat)

structure Building where
  graph : Graph
  merges : Nat
  parts : Array (Option Built)
  waiting : List Nat := []

abbrev Build := StateT Building Scan

namespace Graph

def textOf (g : Graph) : Nat → Nat → Scan (String × List Nat)
  | 0, _ => .error .endless
  | n + 1, id =>
    match (g.vertex id).shape with
    | .scalar text points => .ok (text, points)
    | .mapping entries =>
      match entries.find? fun e => (g.vertex e.1).tag = .value with
      | some (_, v) => textOf g n v
      | none => refuse
    | .sequence _ => refuse

def momentOf (g : Graph) (id : Nat) (text : String) : Scan Document :=
  match (g.vertex id).shape with
  | .mapping _ => .error .notText
  | _ => do .ok (.time (← Timestamp.read text.toList))

def leaf (g : Graph) (id : Nat) : Scan Document :=
  let text := g.textOf (g.size + 1) id
  match (g.vertex id).tag with
  | .null => do
    let _ ← text
    .ok .null
  | .bool => do .ok (.scalar (.bool (← truthOf (← text).1)))
  | .int => do .ok (.scalar (.int (← wholeOf (← text).1)))
  | .float => do .ok (.scalar (.float (← fractionOf (← text).1)))
  | .binary => do .ok (.bytes (← bytesOf (← text).1))
  | .timestamp => do g.momentOf id (← text).1
  | .str => do
    let (s, points) ← text
    .ok (if points.isEmpty then .text s else .garbled points)
  | _ => refuse

end Graph

def Tag.opens : Tag → Option Built
  | .seq => some (.list [])
  | .omap | .pairs => some (.pairs [])
  | .map => some (.mapping [])
  | .set => some (.set [])
  | _ => none

namespace Build

def fail {α : Type} : Build α := fun _ => refuse

def part (id : Nat) : Build (Option Built) := do return (← get).parts.getD id none

def setPart (id : Nat) (b : Built) : Build Unit :=
  modify fun s => { s with parts := s.parts.set! id (some b) }

def meet (id : Nat) : Build Unit := do
  if (← part id).isSome then return ()
  let g := (← get).graph
  match (g.vertex id).tag.opens with
  | some b =>
    setPart id b
    modify fun s => { s with waiting := id :: s.waiting }
  | none =>
    let d ← g.leaf id
    setPart id (.leaf d)

def meetKey (id : Nat) : Build Document := do
  meet id
  match (← part id) with
  | some (.leaf d) => return d
  | _ => fail

/-- One entry of a mapping, set into those before it; a key is the same also where it
is the same node. -/
def setEntry (before : List ((Nat × Document) × Nat)) (e : Nat × Nat) :
    Build (List ((Nat × Document) × Nat)) := do
  let d ← meetKey e.1
  meet e.2
  return Entries.put (fun k l => k.1 = l.1 || k.2.sameKey l.2) (e.1, d) e.2 before

def entriesOf (id : Nat) : Build (List (Nat × Nat)) := do
  let s ← get
  match (s.graph.vertex id).shape with
  | .mapping _ =>
    let g ← s.graph.settle (2 * s.merges + 3) id
    set { s with graph := g }
    let found ← (g.entries id).foldlM setEntry []
    return found.map fun e => (e.1.1, e.2)
  | _ => fail

def pairOf (id : Nat) : Build (Nat × Nat) := do
  match ((← get).graph.vertex id).shape with
  | .mapping [(k, v)] =>
    meet k
    meet v
    return (k, v)
  | _ => fail

def itemsOf (id : Nat) : Build (List Nat) := do
  match ((← get).graph.vertex id).shape with
  | .sequence items => return items
  | _ => fail

def fill (id : Nat) : Build Unit := do
  match (← part id) with
  | some (.list _) =>
    let items ← itemsOf id
    items.forM meet
    setPart id (.list items)
  | some (.pairs _) => setPart id (.pairs (← (← itemsOf id).mapM pairOf))
  | some (.mapping _) => setPart id (.mapping (← entriesOf id))
  | some (.set _) => setPart id (.set ((← entriesOf id).map Prod.fst))
  | _ => return ()

def fillAll : Nat → Build Unit
  | 0 => return ()
  | n + 1 => do
    let level := (← get).waiting.reverse
    if level.isEmpty then return ()
    modify fun s => { s with waiting := [] }
    level.forM fill
    fillAll n

end Build

/-- Unfolds a node into a value. Each node is unfolded once; a collection met within
itself is the one of an earlier unfolding. -/
def unfold (parts : Array (Option Built)) (earlier : Array Document) :
    Nat → Nat → StateM (Array (Option Document)) Document
  | 0, _ => return .endless
  | n + 1, id => do
    if let some d := (← get).getD id none then return d
    modify fun ds => ds.set! id (some (earlier.getD id .endless))
    let d ← match parts.getD id none with
      | some (.leaf d) => pure d
      | some (.list items) => do pure (.list (← items.mapM (unfold parts earlier n)))
      | some (.pairs items) => do
        pure (.list (← items.mapM fun e => do
          let k ← unfold parts earlier n e.1
          let v ← unfold parts earlier n e.2
          pure (.pair k v)))
      | some (.mapping entries) => do
        pure (.mapping (← entries.mapM fun e => do
          let k ← unfold parts earlier n e.1
          let v ← unfold parts earlier n e.2
          pure (k, v)))
      | some (.set items) => do pure (.set (← items.mapM (unfold parts earlier n)))
      | none => pure .endless
    modify fun ds => ds.set! id (some d)
    return d

def unfolded (parts : Array (Option Built)) (root : Nat) : Nat → Array Document → Document
  | n, earlier =>
    let (d, ds) := (unfold parts earlier (parts.size + 1) root).run (parts.map fun _ => none)
    match n with
    | 0 => d
    | n + 1 => unfolded parts root n (ds.map fun d => d.getD .endless)

def unfoldings : Nat := 4

def read (cs : List Char) : Scan Document := do
  let (g, root) ← Graph.ofChars cs
  match root with
  | none => .ok .null
  | some root =>
    let build : Build Unit := do
      Build.meet root
      Build.fillAll (g.size + 1)
    let (_, s) ← build.run ⟨g, g.merges, .replicate g.size none, []⟩
    .ok (unfolded s.parts root unfoldings #[])

end SymbolHierarchy.Yaml
