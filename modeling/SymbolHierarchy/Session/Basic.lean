import SymbolHierarchy.Session.Forest
import SymbolHierarchy.Node.Direction
import SymbolHierarchy.Query.Basic

/-! One hierarchy view: at most one root, children fetched when a view asks for
them. Requests in flight are neither joined nor withdrawn. An opening counts
only if no other opening and no closing came after it; an expansion always
reaches its node, and is announced only under the root it was asked under. -/
namespace SymbolHierarchy

abbrev Ticket := Nat

inductive Pending
  | callRoot (generation : Nat)
  | derivedRoot (generation : Nat)
  | baseRoot (generation : Nat) (entry : Node)
  | expansion (target : Handle) (under : Option Handle)
  deriving Repr

structure Session where
  kind : Kind
  forest : Forest := []
  root : Option Handle := none
  generation : Nat := 0
  waiting : List (Ticket × Pending) := []
  issued : Ticket := 0
  deriving Repr

inductive Outcome
  | opened (result : Except Fault (Option Handle))
  | listed (result : Except Fault (List Handle))

inductive Effect
  | request (ticket : Ticket) (params : Json)
  | announce
  | finished (ticket : Ticket) (outcome : Outcome)

abbrev Reply := Except Fault Json

inductive Input
  | «open» (position : DocumentPosition)
  | close
  | expand (node : Handle)
  | children (node : Option Handle)
  | reply (ticket : Ticket) (reply : Reply)

namespace Session

def isActive (s : Session) : Bool := s.root.isSome

def issue (s : Session) : Session := { s with issued := s.issued + 1 }

def await (s : Session) (t : Ticket) (p : Pending) : Session :=
  { s with waiting := s.waiting ++ [(t, p)] }

def settle (s : Session) (t : Ticket) : Session :=
  { s with waiting := s.waiting.filter fun w => w.1 != t }

def pending? (s : Session) (t : Ticket) : Option Pending :=
  (s.waiting.find? fun w => w.1 == t).map Prod.snd

def decode (s : Session) (r : Reply) : Except Fault Node := do
  let v ← r
  match Node.ofWire s.kind.model v with
  | .ok n => .ok n
  | .error e => .error (.malformed e)

def start (s : Session) (p : DocumentPosition) : Session × List Effect :=
  let t := s.issued
  let generation := s.generation + 1
  let pending := match s.kind with
    | .call => Pending.callRoot generation
    | .inheritance => Pending.derivedRoot generation
  (({ s with generation := generation }.issue).await t pending,
    [.request t (s.kind.rootParams p)])

def install (s : Session) (t : Ticket) (generation : Nat) (n : Node) : Session × List Effect :=
  if generation = s.generation then
    ({ s with forest := s.forest.plant n, root := some s.forest.length },
      [.announce, .finished t (.opened (.ok (some s.forest.length)))])
  else (s, [.finished t (.opened (.ok none))])

def close (s : Session) : Session × List Effect :=
  let s := { s with generation := s.generation + 1 }
  if s.isActive then ({ s with root := none }, [.announce]) else (s, [])

def listChildren (s : Session) (t : Ticket) (h : Handle) : Session × List Effect :=
  match s.forest[h]? with
  | none => (s, [])
  | some c =>
    if c.isMaterialized then (s, [.finished t (.listed (.ok c.children))])
    else match s.kind.expansionParams c.symbol c.facet with
      | .ok params => (s.await t (.expansion h s.root), [.request t params])
      | .error r => (s, [.finished t (.listed (.error (.raised r)))])

def expand (s : Session) (h : Handle) : Session × List Effect :=
  s.issue.listChildren s.issued h

/-- What a view asks for: without a node the root, else the node's children. An
inactive session has none to show. Asking reveals a group. -/
def children (s : Session) (node : Option Handle) : Session × List Effect :=
  let t := s.issued
  let s := s.issue
  match s.root, node with
  | none, _ => (s, [.finished t (.listed (.ok []))])
  | some r, none => (s, [.finished t (.listed (.ok [r]))])
  | some _, some h =>
    let s := match s.forest[h]? with
      | some c => if c.synthetic then { s with forest := s.forest.reveal h } else s
      | none => s
    s.listChildren t h

def adopted (k : Kind) (d : Bool) (ns : List Node) : List Node :=
  match k with
  | .call => ns
  | .inheritance => Node.withDirectionAll d ns

def attach (s : Session) (t : Ticket) (target : Handle) (under : Option Handle) (n : Node) :
    Session × List Effect :=
  let d := (s.forest[target]?.map fun c => c.facet.wantsDerived).getD true
  let ns := adopted s.kind d n.children
  let hs := placesFrom s.forest.length ns
  let forest := (s.forest.plantAll ns).adopt target n.numChildren hs
  let told := s.root.isSome && s.root == under
  ({ s with forest := forest },
    (if told then [.announce] else []) ++ [.finished t (.listed (.ok hs))])

def receive (s : Session) (t : Ticket) (r : Reply) : Session × List Effect :=
  match s.pending? t with
  | none => (s, [])
  | some p =>
    let s := s.settle t
    match p, s.decode r with
    | .callRoot g, .ok n => s.install t g n
    | .callRoot _, .error e => (s, [.finished t (.opened (.error e))])
    | .derivedRoot g, .ok n =>
      let entry := n.withDirection true
      (s.await t (.baseRoot g entry), [.request t (baseParams entry.symbol)])
    | .derivedRoot _, .error e => (s, [.finished t (.opened (.error e))])
    | .baseRoot g entry, .ok b =>
      match entry.merge b with
      | .ok n => s.install t g n
      | .error (name, count) =>
        (s, [.finished t (.opened (.error (.malformed (.unmaterialized name count))))])
    | .baseRoot _ _, .error e => (s, [.finished t (.opened (.error e))])
    | .expansion h u, .ok n => s.attach t h u n
    | .expansion _ _, .error e => (s, [.finished t (.listed (.error e))])

def step (s : Session) : Input → Session × List Effect
  | .open p => s.start p
  | .close => s.close
  | .expand h => s.expand h
  | .children h => s.children h
  | .reply t r => s.receive t r

def run (s : Session) (inputs : List Input) : Session × List (List Effect) :=
  inputs.foldl (fun (s, log) i => let (s, es) := s.step i; (s, log ++ [es])) (s, [])

end Session
end SymbolHierarchy
