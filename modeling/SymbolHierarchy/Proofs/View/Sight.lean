import SymbolHierarchy.Proofs.View.Graph
import SymbolHierarchy.View.Outline

/-! What comes to be seen of a graph, place by place. Each place was stated by a payload, and where
that stopped short of the callers that are seen below it one reply brought them. What is unfolded,
what is drawn and what was asked for on the way are read off it. -/
namespace SymbolHierarchy

/- One place in an unfolded graph: the payload that states its symbol, the reply that brought its
callers where one had to, and what is seen below. -/
inductive Sight
  | mk (id : NodeId) (payload : Json) (reply : Option Json) (below : List Sight)

abbrev Exchange := Json × Reply

namespace Sight

def payload : Sight → Json
  | .mk _ v _ _ => v

section Fold

variable {β : Type} (place : NodeId → Json → Option Json → List β → β)

mutual
def fold : Sight → β
  | .mk i v reply below => place i v reply (foldAll below)
def foldAll : List Sight → List β
  | [] => []
  | x :: rest => fold x :: foldAll rest
end

theorem foldAllMap (xs : List Sight) : foldAll place xs = xs.map (fold place) := by
  induction xs with
  | nil => rfl
  | cons x rest ih => simp [foldAll, ih]

end Fold

def unfolding : Sight → Unfolding := fold fun i _ _ below => .node i below

def exchanges : Sight → List Exchange := fold fun i _ reply below =>
  (reply.map fun w => (callersParams (some i), (.ok w : Reply))).toList ++ below.flatten

def drawn (g : Graph) (icons : IconTheme) : Sight → Except Raised Outline :=
  fold fun i v _ below => do
    let label ← g.title icons i v
    let below ← below.mapM id
    .ok (.branch label below)

/- A reply is there for just those places above the last level whose symbol has callers that its
payload does not carry, and what is below was stated by the items of the reply or of the payload. -/
def Fed (g : Graph) : Nat → Sight → Prop
  | 0, .mk _ _ reply below => reply = none ∧ below = []
  | depth + 1, .mk i v reply below =>
    (reply.isSome = true ↔ g.callers i ≠ [] ∧ v.carried = []) ∧
      below.map payload = (reply.getD v).carried ∧ ∀ x ∈ below, Fed g depth x

section Place

variable (i : NodeId) (v : Json) (reply : Option Json) (below : List Sight)

theorem unfoldingPlace : (mk i v reply below).unfolding = .node i (below.map unfolding) := by
  simp [unfolding, fold, foldAllMap]

theorem exchangesPlace : (mk i v reply below).exchanges =
    (reply.map fun w => (callersParams (some i), (.ok w : Reply))).toList ++
      below.flatMap exchanges := by
  simp [exchanges, fold, foldAllMap, List.flatMap]

theorem gathered {rs : List (Except Raised Outline)} {os : List Outline} :
    rs.mapM id = .ok os ↔ rs = os.map .ok := by
  induction rs generalizing os with
  | nil => cases os <;> simp [pure, Except.pure]
  | cons r rest ih =>
    rw [List.mapM_cons]
    cases r with
    | error e => cases os <;> simp [bind, Except.bind]
    | ok o =>
      cases more : rest.mapM id with
      | error e => cases os <;> simp [bind, Except.bind, more, ← ih]
      | ok rest => cases os <;> simp [bind, Except.bind, pure, Except.pure, more, ← ih]

theorem drawnPlace {g : Graph} {icons : IconTheme} {o : Outline} :
    (mk i v reply below).drawn g icons = .ok o ↔ ∃ label os, g.title icons i v = .ok label ∧
      below.map (drawn g icons) = os.map .ok ∧ o = .branch label os := by
  have opened : (mk i v reply below).drawn g icons = (g.title icons i v).bind fun title =>
      ((below.map (drawn g icons)).mapM id).bind fun below => .ok (.branch title below) := by
    simp only [drawn, fold, foldAllMap]
    rfl
  rw [opened]
  constructor
  · intro done
    cases titled : g.title icons i v with
    | error e => simp [titled, Except.bind] at done
    | ok label =>
      cases all : (below.map (drawn g icons)).mapM id with
      | error e => simp [titled, all, Except.bind] at done
      | ok os =>
        refine ⟨label, os, rfl, gathered.mp all, ?_⟩
        simpa [titled, all, Except.bind] using done.symm
  · rintro ⟨label, os, titled, each, rfl⟩
    rw [titled, gathered.mpr each]
    rfl

end Place

end Sight

end SymbolHierarchy
