import SymbolHierarchy.Proofs.Node.Whole
import SymbolHierarchy.Proofs.Session.Layout
import SymbolHierarchy.Proofs.Session.Run

/-! All or nothing, for every node that a session ever makes: those that stand in its
forest, under a root or not, and those that never join a tree. -/
namespace SymbolHierarchy

def Cell.Whole (c : Cell) : Prop :=
  0 ≤ c.numChildren ∧ (c.children.length = 0 ∨ (c.children.length : Int) = c.numChildren)

theorem cellWhole {n : Node} (below : Nat) : (n.cell below).Whole ↔ n.Whole := by
  simp [Cell.Whole, Node.Whole, Node.cell, placesCount]

namespace Forest

def Whole (f : Forest) : Prop := ∀ c ∈ f, c.Whole

theorem plantAllWhole {f : Forest} {ns : List Node} (whole : f.Whole)
    (each : ∀ n ∈ ns, n.Everywhere Node.Whole) : (f.plantAll ns).Whole := by
  intro c mem
  rcases List.mem_append.mp mem with old | new
  · exact whole c old
  · obtain ⟨i, place⟩ := List.mem_iff_getElem?.mp new
    obtain ⟨x, inside, rfl, _⟩ := cellsAllAt place
    obtain ⟨n, member, below⟩ := Node.memPreorderAll.mp inside
    exact (cellWhole _).mpr (each n member x below)

theorem plantWhole {f : Forest} {n : Node} (whole : f.Whole) (own : n.Everywhere Node.Whole) :
    (f.plant n).Whole := by
  rw [plantOne]
  exact plantAllWhole whole (by simpa using own)

theorem modifyWhole {f : Forest} {change : Cell → Cell} (whole : f.Whole) (h : Handle)
    (keeps : ∀ c, c.Whole → (change c).Whole) : Whole (List.modify f h change) := by
  intro c mem
  obtain ⟨i, place⟩ := List.mem_iff_getElem?.mp mem
  rw [List.getElem?_modify] at place
  obtain ⟨old, found, rfl⟩ := Option.map_eq_some_iff.mp place
  have before := whole old (List.mem_of_getElem? found)
  split
  · exact keeps old before
  · exact before

theorem revealWhole {f : Forest} (whole : f.Whole) (h : Handle) : (f.reveal h).Whole :=
  modifyWhole whole h fun _ own => own

theorem shownWhole {f : Forest} (whole : f.Whole) (h : Handle) : (f.shown h).Whole := by
  unfold shown
  split
  · split
    · exact revealWhole whole h
    · exact whole
  · exact whole

end Forest

namespace Session

def makes (s : Session) : Input → List Node
  | .reply t r =>
    match s.pending? t, s.decode r with
    | some (.callRoot _), .ok n => [n]
    | some (.derivedRoot _), .ok n => [n, n.withDirection true]
    | some (.baseRoot _ entry), .ok n =>
      match entry.merge n with
      | .ok root => [n, root]
      | .error _ => [n]
    | some (.expansion h _), .ok n => n :: s.newChildren h n
    | _, _ => []
  | _ => []

def made (s : Session) : List Input → List Node
  | [] => []
  | i :: rest => s.makes i ++ made (s.step i).1 rest

theorem decodeWhole {s : Session} {r n} (read : s.decode r = .ok n) : n.Everywhere Node.Whole := by
  obtain ⟨v, _, wire⟩ := decodeWire read
  exact Node.readsWhole (Node.wireReads wire)

theorem adoptedWhole (k : Kind) (d : Bool) {ns : List Node}
    (each : ∀ n ∈ ns, n.Everywhere Node.Whole) :
    ∀ n ∈ adopted k d ns, n.Everywhere Node.Whole := by
  intro n mem
  cases k with
  | call => exact each n mem
  | inheritance =>
    simp only [adopted, Node.withDirectionAllMap, List.mem_map] at mem
    obtain ⟨m, member, rfl⟩ := mem
    exact Node.copyWhole d (each m member)

theorem adoptedCount (k : Kind) (d : Bool) (ns : List Node) :
    (adopted k d ns).length = ns.length := by
  cases k <;> simp [adopted, Node.withDirectionAllMap]

structure AllWhole (s : Session) : Prop where
  forest : s.forest.Whole
  entries : ∀ t g entry, (t, Pending.baseRoot g entry) ∈ s.waiting → entry.Everywhere Node.Whole

theorem asksWhole {s i h f} (asks : Asks s i h f) (whole : s.forest.Whole) : f.Whole := by
  cases asks with
  | expanding => exact whole
  | viewing => exact Forest.shownWhole whole h

theorem buildsWhole {s : Session} {r p g n t} (whole : s.AllWhole)
    (waits : s.pending? t = some p) (built : Builds s r p g n) : n.Everywhere Node.Whole := by
  cases built with
  | call read => exact decodeWhole read
  | merged read joined =>
    have entry := whole.entries _ _ _ (pendingWaits waits)
    exact Node.mergeWhole entry (decodeWhole read) joined

theorem newChildrenWhole {s : Session} {n : Node} (own : n.Everywhere Node.Whole) (h : Handle) :
    ∀ c ∈ s.newChildren h n, c.Everywhere Node.Whole :=
  adoptedWhole _ _ fun _ child => own.child child

theorem grownWhole {s : Session} {h : Handle} {n : Node} (whole : s.forest.Whole)
    (own : n.Everywhere Node.Whole) : (s.grown h n).Whole := by
  refine Forest.modifyWhole (Forest.plantAllWhole whole (newChildrenWhole own h)) h ?_
  intro c _
  refine ⟨own.self.1, ?_⟩
  simpa only [placesCount, newChildren, adoptedCount] using own.self.2

theorem turnsWhole {s : Session} {i f root ins} (turns : Turns s i f root ins)
    (whole : s.AllWhole) : f.Whole := by
  cases turns with
  | rests => exact whole.forest
  | closes => exact whole.forest
  | looks asks => exact asksWhole asks whole.forest
  | installs waits built =>
    exact Forest.plantWhole whole.forest (buildsWhole whole waits built)
  | grows waits read => exact grownWhole whole.forest (decodeWhole read)

theorem movesWhole {s i s' es} (moves : Moves s i s' es) (whole : s.AllWhole) : s'.AllWhole := by
  refine ⟨turnsWhole (movesTurns moves) whole, ?_⟩
  intro t g entry mem
  rcases movesWaiting moves mem with old | new
  · exact whole.entries t g entry old
  · obtain ⟨_, r, n, _, read, rfl⟩ := beginsEntry new rfl
    exact Node.copyWhole true (decodeWhole read)

theorem makesWhole {s : Session} (whole : s.AllWhole) (i : Input) :
    ∀ n ∈ s.makes i, n.Everywhere Node.Whole := by
  intro n mem
  cases i with
  | reply t r =>
    simp only [makes] at mem
    split at mem
    · rename_i read
      simp only [List.mem_singleton] at mem
      exact mem ▸ decodeWhole read
    · rename_i read
      have own := decodeWhole read
      simp only [List.mem_cons, List.not_mem_nil, or_false] at mem
      rcases mem with rfl | rfl
      · exact own
      · exact Node.copyWhole true own
    · rename_i waits read
      have own := decodeWhole read
      have entry := whole.entries _ _ _ (pendingWaits waits)
      split at mem
      · rename_i joined
        simp only [List.mem_cons, List.not_mem_nil, or_false] at mem
        rcases mem with rfl | rfl
        · exact own
        · exact Node.mergeWhole entry own joined
      · simp only [List.mem_singleton] at mem
        exact mem ▸ own
    · rename_i read
      have own := decodeWhole read
      rcases List.mem_cons.mp mem with rfl | child
      · exact own
      · exact newChildrenWhole own _ n child
    · simp at mem
  | _ => simp [makes] at mem

theorem madeWhole {s : Session} (whole : s.AllWhole) (inputs : List Input) :
    ∀ n ∈ s.made inputs, n.Everywhere Node.Whole := by
  induction inputs generalizing s with
  | nil => simp [made]
  | cons i rest ih =>
    intro n mem
    rcases List.mem_append.mp mem with now | later
    · exact makesWhole whole i n now
    · exact ih (movesWhole (stepMoves s i) whole) n later

theorem freshWhole (k : Kind) : (fresh k).AllWhole :=
  ⟨by simp [Forest.Whole, fresh], by simp [fresh]⟩

theorem everyNodeWhole (k : Kind) (inputs : List Input) :
    (∀ c ∈ ((fresh k).after inputs).forest, c.Whole) ∧
      ∀ n ∈ (fresh k).made inputs, ∀ x ∈ n.preorder, x.Whole :=
  ⟨(afterKeeps movesWhole (freshWhole k) inputs).forest, madeWhole (freshWhole k) inputs⟩

end Session
end SymbolHierarchy
