import SymbolHierarchy.Session.Basic
import SymbolHierarchy.Controller.Clicks
import SymbolHierarchy.Controller.Answer
import SymbolHierarchy.Paths

/-! One session and one click memory for each hierarchy. A click reads only the
symbol of its node. Closing a hierarchy also forgets its clicks. A tree stays in the
forest of the session that opened it; the other session may visit a node there, and
what it fetches for the node joins that forest. -/
namespace SymbolHierarchy

structure PerKind (α : Type) where
  call : α
  inheritance : α
  deriving Repr

namespace PerKind

variable {α : Type}

def get (p : PerKind α) : Kind → α
  | .call => p.call
  | .inheritance => p.inheritance

def set (p : PerKind α) (k : Kind) (a : α) : PerKind α :=
  match k with
  | .call => { p with call := a }
  | .inheritance => { p with inheritance := a }

theorem getSet (p : PerKind α) (k : Kind) (a : α) : (p.set k a).get k = a := by
  cases k <;> rfl

theorem getSetOther (p : PerKind α) (k j : Kind) (a : α) (other : k ≠ j) :
    (p.set k a).get j = p.get j := by
  cases k <;> cases j <;> simp_all [get, set]

end PerKind

structure Controller (τ : Type) where
  sessions : PerKind Session := ⟨{ kind := .call }, { kind := .inheritance }⟩
  clicks : PerKind (Clicks τ) := ⟨{}, {}⟩
  /-- The requests of a session for nodes in the other's forest. -/
  visits : List (Kind × Ticket) := []

inductive Action (τ : Type)
  | session (kind : Kind) (input : Input)
  /-- Lists the children of a node in the other session's forest. -/
  | visit (kind : Kind) (node : Handle)
  | close (kind : Kind)
  | activate (kind : Kind) (symbol : Symbol) (hasChildren : Bool) (now : τ)
  | navigate (symbol : Symbol)

inductive Response
  | session (kind home : Kind) (effect : Effect)
  | navigated (location : Location) (preserveFocus : Bool)
  | activated (navigated : Bool)
  | failed (cause : Raised)

namespace Controller

variable {τ : Type}

def navigate (paths : Paths) (s : Symbol) : List Response :=
  match s.location with
  | none => []
  | some l => [.navigated { l with uri := paths.toClient l.uri } true]

def stepIn (c : Controller τ) (k home : Kind) (i : Input) : Controller τ × List Response :=
  let own := c.sessions.get k
  let (s, es) := { own with forest := (c.sessions.get home).forest }.step i
  let sessions := c.sessions.set k { s with forest := own.forest }
  let sessions := sessions.set home { sessions.get home with forest := s.forest }
  ({ c with sessions := sessions }, es.map (.session k home))

theorem stepAtHome (c : Controller τ) (k : Kind) (i : Input) :
    c.stepIn k k i =
      ({ c with sessions := c.sessions.set k ((c.sessions.get k).step i).1 },
        ((c.sessions.get k).step i).2.map (.session k k)) := by
  cases k <;> rfl

/-- A reply to a visit concerns the forest that was visited. -/
def homeOf (c : Controller τ) (k : Kind) : Input → Kind
  | .reply t _ => if c.visits.contains (k, t) then k.other else k
  | _ => k

def inSession (c : Controller τ) (k : Kind) (i : Input) : Controller τ × List Response :=
  c.stepIn k (c.homeOf k i) i

def visit (c : Controller τ) (k : Kind) (h : Handle) : Controller τ × List Response :=
  { c with visits := (k, (c.sessions.get k).issued) :: c.visits }.stepIn k k.other
    (.children (some h))

def step (paths : Paths) (lapse : τ → τ → Lapse) (c : Controller τ) :
    Action τ → Controller τ × List Response
  | .session k i => c.inSession k i
  | .visit k h => c.visit k h
  | .close k =>
    let (c, es) := c.inSession k .close
    ({ c with clicks := c.clicks.set k {} }, es)
  | .activate k s hasChildren now =>
    let (m, r) := (c.clicks.get k).activate lapse s hasChildren now
    ({ c with clicks := c.clicks.set k m },
      match r with
      | .ok b => (if b then navigate paths s else []) ++ [.activated b]
      | .error cause => [.failed cause])
  | .navigate s => (c, navigate paths s)

end Controller
end SymbolHierarchy
