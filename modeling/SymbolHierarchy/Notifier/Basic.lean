/-! Change notification. Listeners are kept in the order of their subscriptions.
A disposer removes the first entry equal to its listener, whichever subscription
that entry came from. Firing walks the entries present when it began. -/
namespace SymbolHierarchy

structure Notifier (α : Type) where
  listeners : List α := []
  deriving Repr

namespace Notifier

variable {α σ ε : Type}

def subscribe (n : Notifier α) (a : α) : Notifier α := ⟨n.listeners ++ [a]⟩

def dispose [BEq α] (n : Notifier α) (a : α) : Notifier α := ⟨n.listeners.erase a⟩

def count (n : Notifier α) : Nat := n.listeners.length

theorem countSubscribe (n : Notifier α) (a : α) : (n.subscribe a).count = n.count + 1 := by
  simp [subscribe, count]

def callEach (call : α → σ → σ × Option ε) : List α → σ → σ × Option ε
  | [], s => (s, none)
  | a :: rest, s =>
    match call a s with
    | (s, some e) => (s, some e)
    | (s, none) => callEach call rest s

def fire (n : Notifier α) (call : α → σ → σ × Option ε) (s : σ) : σ × Option ε :=
  callEach call n.listeners s

end Notifier
end SymbolHierarchy
