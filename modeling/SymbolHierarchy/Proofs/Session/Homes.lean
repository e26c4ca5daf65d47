import SymbolHierarchy.Proofs.Session.Growth

/-! Where nodes belong. The home of a node is the root that it was made for: the one that was
planted with it, or the home of the node that it was brought to. Children are at home where
their parent is, so what two roots reach is apart for good. -/
namespace SymbolHierarchy
namespace Session

def homed (s : Session) (homes : List Handle) (i : Input) : List Handle :=
  homes ++ List.replicate ((s.step i).1.forest.length - s.forest.length)
    (((s.growth? i).bind fun g => homes[g.target]?).getD s.forest.length)

def homesFrom (s : Session) (homes : List Handle) : List Input → List Handle
  | [] => homes
  | i :: rest => homesFrom (s.step i).1 (s.homed homes i) rest

def homes (s : Session) (inputs : List Input) : List Handle := s.homesFrom [] inputs

structure Housed (s : Session) (homes : List Handle) : Prop where
  count : homes.length = s.forest.length
  edges : ∀ p child : Nat, child ∈ s.forest.childrenAt p → homes[child]? = homes[p]?
  root : ∀ r : Nat, s.root = some r → homes[r]? = some r

section Housed

variable {s : Session} {homes : List Handle} {q : Handle}

theorem newHome {m i : Nat} (low : homes.length ≤ i) (high : i < homes.length + m) :
    (homes ++ List.replicate m q)[i]? = some q := by
  rw [List.getElem?_append_right low, List.getElem?_replicate_of_lt (by omega)]

theorem oldHome {i : Nat} (more : List Handle) (old : i < homes.length) :
    (homes ++ more)[i]? = homes[i]? := List.getElem?_append_left old

theorem plantHoused (grounded : s.Grounded) (housed : s.Housed homes) (n : Node) :
    ∀ p child : Nat, child ∈ (s.forest.plant n).childrenAt p →
      (homes ++ List.replicate n.size q)[child]? = (homes ++ List.replicate n.size q)[p]? := by
  intro p child mem
  have size : Node.sizeAll [n] = n.size := by simp [Node.sizeAll]
  rw [Forest.plantOne] at mem
  rcases Nat.lt_or_ge p s.forest.length with old | new
  · rw [Forest.plantAllChildren _ old] at mem
    have inside := grounded.ordered p child mem
    rw [oldHome _ (housed.count ▸ inside.2), oldHome _ (housed.count ▸ old)]
    exact housed.edges p child mem
  · obtain ⟨j, rfl⟩ := Nat.exists_eq_add_of_le new
    have range := Forest.plantedChildren mem
    have count := housed.count
    rw [newHome (by omega) (by omega), newHome (by omega) (by omega)]

theorem grownHoused {h : Nat} {n : Node} (grounded : s.Grounded) (housed : s.Housed homes)
    (target : h < s.forest.length) (own : homes[h]? = some q) :
    ∀ p child : Nat, child ∈ (s.grown h n).childrenAt p →
      (homes ++ List.replicate (Node.sizeAll (s.newChildren h n)) q)[child]? =
        (homes ++ List.replicate (Node.sizeAll (s.newChildren h n)) q)[p]? := by
  intro p child mem
  have count := housed.count
  rcases Nat.lt_or_ge p s.forest.length with old | new
  · rw [oldHome (i := p) _ (by omega)]
    by_cases self : h = p
    · subst self
      rw [grownChildrenSelf target] at mem
      have range := placesRange mem
      rw [own, newHome (by omega) (by omega)]
    · rw [grownChildrenOther old self] at mem
      have inside := grounded.ordered p child mem
      rw [oldHome (i := child) _ (by omega)]
      exact housed.edges p child mem
  · obtain ⟨j, rfl⟩ := Nat.exists_eq_add_of_le new
    have range := grownChildrenNew target mem
    rw [newHome (by omega) (by omega), newHome (by omega) (by omega)]

theorem stepHoused (grounded : s.Grounded) (housed : s.Housed homes) (i : Input) :
    (s.step i).1.Housed (s.homed homes i) := by
  have turns := movesTurns (stepMoves s i)
  have count := housed.count
  -- the forest and the root are all that counts of the state after the step
  suffices all : ∀ f root ins, Turns s i f root ins →
      let new := homes ++ List.replicate (f.length - s.forest.length)
        (((s.growth? i).bind fun g => homes[g.target]?).getD s.forest.length)
      new.length = f.length ∧
        (∀ p child : Nat, child ∈ f.childrenAt p → new[child]? = new[p]?) ∧
        ∀ r : Nat, root = some r → new[r]? = some r by
    obtain ⟨length, edges, root⟩ := all _ _ _ turns
    exact ⟨length, edges, root⟩
  intro f root ins turns
  have length : f.length = homes.length + (f.length - s.forest.length) := by
    have grows := turnsLength turns
    omega
  refine ⟨by simpa using length.symm, ?_⟩
  cases turns with
  | rests => simpa using And.intro housed.edges housed.root
  | closes => simpa using housed.edges
  | looks asks =>
    rw [asksLength asks, Nat.sub_self, List.replicate_zero, List.append_nil]
    refine ⟨?_, housed.root⟩
    cases asks with
    | expanding => exact housed.edges
    | viewing => simpa using housed.edges
  | @installs t r p n waits built =>
    have none : s.growth? (.reply t r) = none := by
      rw [growth?, waits]
      cases built <;> rfl
    have size : (s.forest.plant n).length - s.forest.length = n.size := by
      rw [Forest.plant, List.length_append, cellsCount, Nat.add_sub_cancel_left]
    rw [none, size]
    refine ⟨plantHoused grounded housed n, ?_⟩
    intro r place
    cases place
    have own := n.sizeSelf
    exact newHome (by omega) (by omega)
  | @grows t r h under n waits read =>
    have target := grounded.targets _ _ _ (pendingWaits waits)
    have own : homes[h]? = some homes[h] := List.getElem?_eq_getElem (count ▸ target)
    have some : s.growth? (.reply t r) = some ⟨h, s.forest.length, n⟩ := by
      rw [growth?, waits, read]
    rw [some, grownLength, Nat.add_sub_cancel_left, Option.bind_some, own]
    refine ⟨grownHoused grounded housed target own, ?_⟩
    intro r active
    have inside := grounded.root r active
    rw [oldHome _ (count ▸ inside)]
    exact housed.root r active

theorem belowHome (housed : s.Housed homes) {top h : Nat} (below : s.forest.Below top h) :
    homes[h]? = homes[top]? := by
  induction below with
  | self => rfl
  | child above mem ih => exact (housed.edges _ _ mem).trans ih

theorem afterHoused (grounded : s.Grounded) (housed : s.Housed homes) (inputs : List Input) :
    (s.after inputs).Housed (s.homesFrom homes inputs) := by
  induction inputs generalizing s homes with
  | nil => exact housed
  | cons i rest ih =>
    rw [afterCons]
    exact ih (movesGrounded (stepMoves s i) grounded) (stepHoused grounded housed i)

end Housed

theorem freshHoused (k : Kind) (inputs : List Input) :
    ((fresh k).after inputs).Housed ((fresh k).homes inputs) := by
  refine afterHoused (freshGrounded k) ⟨rfl, ?_, nofun⟩ inputs
  intro p child mem
  simp [fresh, Forest.childrenAt] at mem

theorem homesFromPrefix (s : Session) (homes : List Handle) (inputs : List Input) :
    homes <+: s.homesFrom homes inputs := by
  induction inputs generalizing s homes with
  | nil => exact List.prefix_refl _
  | cons i rest ih => exact (List.prefix_append homes _).trans (ih _ _)

theorem homesFromAppend (s : Session) (homes : List Handle) (front back : List Input) :
    s.homesFrom homes (front ++ back) =
      (s.after front).homesFrom (s.homesFrom homes front) back := by
  induction front generalizing s homes with
  | nil => rfl
  | cons i rest ih => exact (ih _ _).trans (by rw [afterCons, homesFrom])

theorem homesKept (s : Session) (before rest : List Input) {x : Nat} {q : Handle}
    (home : (s.homes before)[x]? = some q) : (s.homes (before ++ rest))[x]? = some q := by
  obtain ⟨more, same⟩ := homesFromPrefix (s.after before) (s.homes before) rest
  have inside := (List.getElem?_eq_some_iff.mp home).1
  rw [homes, homesFromAppend, ← homes, ← same, oldHome more inside, home]

theorem belowRootHome (k : Kind) (inputs : List Input) {q x : Nat}
    (active : ((fresh k).after inputs).root = some q)
    (below : ((fresh k).after inputs).forest.Below q x) :
    ((fresh k).homes inputs)[x]? = some q := by
  have housed := freshHoused k inputs
  exact (belowHome housed below).trans (housed.root q active)

end Session
end SymbolHierarchy
