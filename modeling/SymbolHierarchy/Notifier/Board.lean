import SymbolHierarchy.Notifier.Basic
import SymbolHierarchy.Fault

/-! A notifier whose listeners act on it. A listener is known by its name; what
it does is fixed when the name first comes up. Subscriptions remember their
disposers under names of their own. -/
namespace SymbolHierarchy

inductive Deed
  | nothing
  | fail
  | dispose (subscription : String)
  | subscribe (listener : String)
  deriving DecidableEq, Repr

structure Board where
  notifier : Notifier String := {}
  deeds : List (String × Deed) := []
  disposers : List (String × String) := []
  fired : List String := []
  deriving Repr

inductive BoardStep
  | subscribe (subscription listener : String) (deed : Deed)
  | define (listener : String)
  | dispose (subscription : String)
  | fire
  deriving Repr

namespace Board

def define (b : Board) (listener : String) (deed : Deed) : Board :=
  if b.deeds.any fun d => d.1 == listener then b
  else { b with deeds := b.deeds ++ [(listener, deed)] }

def deedOf (b : Board) (listener : String) : Deed :=
  ((b.deeds.find? fun d => d.1 == listener).map Prod.snd).getD .nothing

def subscribe (b : Board) (subscription listener : String) : Board :=
  { b with notifier := b.notifier.subscribe listener,
           disposers := (subscription, listener) :: b.disposers }

def dispose (b : Board) (subscription : String) : Board :=
  match b.disposers.find? fun d => d.1 == subscription with
  | some (_, listener) => { b with notifier := b.notifier.dispose listener }
  | none => b

def call (listener : String) (b : Board) : Board × Option Raised :=
  let b := { b with fired := b.fired ++ [listener] }
  match b.deedOf listener with
  | .nothing => (b, none)
  | .fail => (b, some (.runtime listener))
  | .dispose s => (b.dispose s, none)
  | .subscribe l => ((b.define l .nothing).subscribe l l, none)

def step (b : Board) : BoardStep → Board × Option Raised
  | .subscribe s l d => ((b.define l d).subscribe s l, none)
  | .define l => (b.define l .nothing, none)
  | .dispose s => (b.dispose s, none)
  | .fire => b.notifier.fire call b

end Board
end SymbolHierarchy
