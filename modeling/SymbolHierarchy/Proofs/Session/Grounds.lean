import SymbolHierarchy.Proofs.Session.Run
import SymbolHierarchy.Proofs.Session.Sides

/-! How the nodes of a session stand to each other in time, for either kind. Children stand
behind their parents and a root behind all that was there before it, so no root comes back and
what was asked for under another root is for a node in front of the present one. -/
namespace SymbolHierarchy
namespace Session

/- An expansion under way for a node behind the present root was asked for under that root. -/
structure Grounded (s : Session) : Prop where
  ordered : s.forest.Ordered
  root : ∀ r : Nat, s.root = some r → r < s.forest.length
  targets : ∀ (t : Ticket) (h : Nat) under, (t, Pending.expansion h under) ∈ s.waiting →
    h < s.forest.length
  roots : ∀ (t : Ticket) (h q : Nat), (t, Pending.expansion h (some q)) ∈ s.waiting →
    q < s.forest.length
  present : ∀ (t : Ticket) (h r : Nat) under, (t, Pending.expansion h under) ∈ s.waiting →
    s.root = some r → r ≤ h → under = some r

theorem grownOrdered {s : Session} {h : Nat} {n : Node} (ordered : s.forest.Ordered)
    (target : h < s.forest.length) : (s.grown h n).Ordered := by
  intro p child mem
  rw [grownLength]
  by_cases self : p = h
  · subst self
    rw [grownChildrenSelf target] at mem
    have range := placesRange mem
    omega
  · rcases Nat.lt_or_ge p s.forest.length with old | new
    · rw [grownChildrenOther old (Ne.symm self)] at mem
      have inside := ordered p child mem
      omega
    · obtain ⟨j, rfl⟩ := Nat.exists_eq_add_of_le new
      exact grownChildrenNew target mem

theorem asksLength {s : Session} {i h f} (asks : Asks s i h f) :
    f.length = s.forest.length := by
  cases asks with
  | expanding => rfl
  | viewing => exact Forest.shownLength _ _

theorem asksIdentity {s : Session} {i h f} (asks : Asks s i h f) (x : Handle) :
    f.identityAt x = s.forest.identityAt x := by
  cases asks with
  | expanding => rfl
  | viewing => exact Forest.shownIdentity _ _ _

theorem asksFull {s : Session} {i h f} (asks : Asks s i h f) (x : Handle) :
    f.fullAt x = s.forest.fullAt x := by
  cases asks with
  | expanding => rfl
  | viewing => exact Forest.shownFull _ _ _

theorem asksNode {s : Session} {i h f} (asks : Asks s i h f) :
    i = .expand h ∨ i = .children (some h) := by
  cases asks with
  | expanding => exact .inl rfl
  | viewing => exact .inr rfl

theorem asksOrdered {s : Session} {i h f} (asks : Asks s i h f) (ordered : s.forest.Ordered) :
    f.Ordered := by
  cases asks with
  | expanding => exact ordered
  | viewing => exact Forest.shownOrdered ordered h

section Turns

variable {s : Session} {i : Input} {f : Forest} {root : Option Handle}
  {ins : List (Ticket × Handle)}

theorem turnsLength (turns : Turns s i f root ins) : s.forest.length ≤ f.length := by
  cases turns with
  | rests => exact Nat.le_refl _
  | closes => exact Nat.le_refl _
  | looks asks => exact Nat.le_of_eq (asksLength asks).symm
  | installs => simp [Forest.plantOne]
  | grows =>
    rw [grownLength]
    exact Nat.le_add_right _ _

theorem turnsRoot (turns : Turns s i f root ins) :
    root = s.root ∨ root = none ∨ root = some s.forest.length := by
  cases turns with
  | rests => exact .inl rfl
  | closes => exact .inr (.inl rfl)
  | looks => exact .inl rfl
  | installs => exact .inr (.inr rfl)
  | grows => exact .inl rfl

theorem turnsOrdered (grounded : s.Grounded) (turns : Turns s i f root ins) : f.Ordered := by
  cases turns with
  | rests => exact grounded.ordered
  | closes => exact grounded.ordered
  | looks asks => exact asksOrdered asks grounded.ordered
  | installs =>
    rw [Forest.plantOne]
    exact Forest.plantAllOrdered grounded.ordered
  | grows waits =>
    exact grownOrdered grounded.ordered (grounded.targets _ _ _ (pendingWaits waits))

theorem turnsInside (grounded : s.Grounded) (turns : Turns s i f root ins) {r : Nat}
    (active : root = some r) : r < f.length := by
  have grows := turnsLength turns
  cases turns with
  | @installs _ _ _ n =>
    cases active
    have own := n.sizeSelf
    rw [Forest.plantOne, Forest.plantAllLength, Node.sizeAll]
    omega
  | closes => cases active
  | rests => exact Nat.lt_of_lt_of_le (grounded.root r active) grows
  | looks => exact Nat.lt_of_lt_of_le (grounded.root r active) grows
  | grows => exact Nat.lt_of_lt_of_le (grounded.root r active) grows

end Turns

theorem beginsAsked {s : Session} {i w h under} (begins : Begins s i w)
    (waits : w.2 = .expansion h under) :
    w.1 = s.issued ∧ under = s.root ∧ (i = .expand h ∨ i = .children (some h)) := by
  cases begins with
  | opening p => cases kind : s.kind <;> simp [kind, Kind.firstWait] at waits
  | entry => cases waits
  | fetch asks =>
    cases waits
    exact ⟨rfl, rfl, asksNode asks⟩

theorem beginsTarget {s : Session} {i w under} {h : Nat} (begins : Begins s i w)
    (waits : w.2 = .expansion h under) : h < s.forest.length := by
  obtain ⟨f, c, asks, found, _⟩ := beginsFetch begins waits
  exact asksLength asks ▸ (List.getElem?_eq_some_iff.mp found).1

theorem movesGrounded {s i s' es} (moves : Moves s i s' es) (grounded : s.Grounded) :
    s'.Grounded := by
  have turns := movesTurns moves
  have grows := turnsLength turns
  have expansion : ∀ {t : Ticket} {h : Nat} {under},
      (t, Pending.expansion h under) ∈ s'.waiting →
      (t, Pending.expansion h under) ∈ s.waiting ∨ h < s.forest.length ∧ under = s.root := by
    intro t h under mem
    rcases movesWaiting moves mem with old | new
    · exact .inl old
    · exact .inr ⟨beginsTarget new rfl, (beginsAsked new rfl).2.1⟩
  refine ⟨turnsOrdered grounded turns, fun r active => turnsInside grounded turns active,
    ?_, ?_, ?_⟩
  · intro t h under mem
    rcases expansion mem with old | ⟨there, _⟩
    · exact Nat.lt_of_lt_of_le (grounded.targets t h under old) grows
    · exact Nat.lt_of_lt_of_le there grows
  · intro t h q mem
    rcases expansion mem with old | ⟨_, same⟩
    · exact Nat.lt_of_lt_of_le (grounded.roots t h q old) grows
    · exact Nat.lt_of_lt_of_le (grounded.root q same.symm) grows
  · intro t h r under mem active behind
    have there : h < s.forest.length := by
      rcases expansion mem with old | ⟨there, _⟩
      · exact grounded.targets t h under old
      · exact there
    have kept : s.root = some r := by
      rcases turnsRoot turns with same | gone | fresh
      · exact same ▸ active
      · rw [gone] at active
        cases active
      -- a root planted now stands behind every node that was asked for
      · have place : s.forest.length = r := Option.some.inj (fresh.symm.trans active)
        omega
    rcases expansion mem with old | ⟨_, same⟩
    · exact grounded.present t h r under old kept behind
    · exact same.trans kept

theorem freshGrounded (k : Kind) : (fresh k).Grounded where
  ordered := by simp [Forest.Ordered, fresh, Forest.childrenAt]
  root := nofun
  targets := by simp [fresh]
  roots := by simp [fresh]
  present := by simp [fresh]

theorem afterGrounded (k : Kind) (inputs : List Input) : ((fresh k).after inputs).Grounded :=
  afterKeeps movesGrounded (freshGrounded k) inputs

end Session
end SymbolHierarchy
