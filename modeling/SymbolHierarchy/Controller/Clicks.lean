import SymbolHierarchy.Fault
import SymbolHierarchy.Number.Reading

/-! Telling one click from two. A view reports every click on a node as the same
signal; a second one on the same node within the window navigates, a first one
only selects. A leaf navigates at once, a node without a location never does.
Time is anything with a window test. -/
namespace SymbolHierarchy

inductive Lapse
  | late
  | inTime
  /-- The two times have no difference. -/
  | unmeasured
  /-- In time, but by a difference that cannot be told. -/
  | untold
  deriving DecidableEq, Repr

structure Clicks (τ : Type) where
  lastId : Option NodeId := none
  lastTime : Option τ := none
  deriving Repr

namespace Clicks

variable {τ : Type}

def again (c : Clicks τ) (now : τ) : Lapse → Clicks τ × Except Raised Bool
  | .late => ({ c with lastTime := some now }, .ok false)
  | .inTime => ({ c with lastTime := some now }, .ok true)
  | .unmeasured => (c, .error .notDouble)
  | .untold => ({ c with lastTime := some now }, .error .notDouble)

/-- One click on a node: the memory after it, and whether it navigates.
`lapse last now` places `now` against the window opened at `last`. -/
def activate (lapse : τ → τ → Lapse) (c : Clicks τ) (s : Symbol) (hasChildren : Bool) (now : τ) :
    Clicks τ × Except Raised Bool :=
  if s.location.isNone then (c, .ok false)
  else if !hasChildren then (c, .ok true)
  else match c.lastTime with
    | none => (⟨s.id, some now⟩, .ok false)
    | some last =>
      if s.id = c.lastId then c.again now (lapse last now)
      else (⟨s.id, some now⟩, .ok false)

end Clicks

def Reading.lapse (window last now : Reading) : Lapse :=
  match now.sub? last with
  | none => .unmeasured
  | some span =>
    if !span.less window then .late
    else if span.toDouble?.isSome then .inTime
    else .untold

end SymbolHierarchy
