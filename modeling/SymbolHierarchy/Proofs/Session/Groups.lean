import SymbolHierarchy.Proofs.Session.Asking
import SymbolHierarchy.Proofs.Session.Growth
import SymbolHierarchy.Proofs.Session.Targets

/-! The group of supertypes of a root, from the step that makes it on. It is complete when it is
made and nothing is ever asked for it, so nothing about it changes but that a view reveals it: by
asking for its children while the session has a root, whether or not that is still its own. -/
namespace SymbolHierarchy

theorem Node.cellFull (n : Node) (below : Nat) :
    (n.cell below).isMaterialized = n.isMaterialized := by
  simp [Cell.isMaterialized, isMaterialized, cell, placesCount]

theorem Forest.groupedCell (f : Forest) (entry group : Node) :
    (f.plant (entry.withGroup group))[f.length + 1]? = some (group.cell (f.length + 2)) := by
  have first := plantedAt (f ++ [(entry.withGroup group).cell (f.length + 1)]) [group] 0
  rw [plantGrouped, plantAllKeeps]
  · simpa [Node.preorderAll, Node.preorderSelf] using first
  · have room : 0 < Node.sizeAll [group] := by
      rw [Node.sizeAll, group.sizeSelf]
      omega
    rw [plantAllLength, List.length_append, List.length_singleton]
    exact Nat.lt_add_of_pos_right room

namespace Session

structure Groups (s : Session) (i : Input) (r g : Handle) : Prop where
  installs : ∃ t, installed (s.step i).2 = [(t, r)]
  reports : s.reports i = true
  first : ((s.step i).1.forest.childrenAt r).head? = some g

/- A view asked for the children of a node in the course of a run, under a root that fits. -/
def Viewed (s : Session) (g : Handle) (fits : Option Handle → Prop) (inputs : List Input) : Prop :=
  ∃ front back, inputs = front ++ .children (some g) :: back ∧ fits (s.after front).root

structure Holds (s : Session) (g : Handle) (c : Cell) : Prop where
  found : s.forest[g]? = some c
  group : c.synthetic = true
  full : c.isMaterialized = true
  unasked : s.Unasked g

section Kept

variable {s s' : Session} {i : Input} {es : List Effect} {g : Handle} {c : Cell}
  (holds : s.Holds g c)
include holds

theorem movesUnasked (moves : Moves s i s' es) : s'.Unasked g := by
  intro t under mem
  rcases movesWaiting moves mem with old | new
  · exact holds.unasked t under old
  · have short := beginsShort new rfl
    simp [Forest.fullAt, holds.found, holds.full] at short

theorem viewedHolds {r : Handle} (active : s.root = some r) :
    (s.step (.children (some g))).1.Holds g c.shown := by
  have steps := viewHeld active holds.found holds.full
  have unasked := movesUnasked holds (stepMoves s (.children (some g)))
  refine ⟨?_, ?_, by simpa using holds.full, unasked⟩
  · rw [steps]
    exact Forest.shownCell holds.found
  · simp [Cell.shown, holds.group]

theorem asksElsewhere {h : Handle} {f : Forest} (asks : Asks s i h f)
    (still : ¬ (i = .children (some g) ∧ s.root ≠ none)) : f[g]? = some c := by
  cases asks with
  | expanding => exact holds.found
  | viewing _ active =>
    have other : h ≠ g := by
      rintro rfl
      exact still ⟨rfl, by simp [active]⟩
    rw [Forest.shownElsewhere other, holds.found]

theorem unviewedHolds (moves : Moves s i s' es)
    (still : ¬ (i = .children (some g) ∧ s.root ≠ none)) : s'.Holds g c := by
  have there := (List.getElem?_eq_some_iff.mp holds.found).1
  refine ⟨?_, holds.group, holds.full, movesUnasked holds moves⟩
  cases moves with
  | absent asks | atHand asks | fetches asks | refuses asks =>
    exact asksElsewhere holds asks still
  | installs => exact (Forest.plantKeeps _ _ _ there).trans holds.found
  | @grows _ _ target under _ waits =>
    have other : target ≠ g := by
      rintro rfl
      exact holds.unasked _ under (pendingWaits waits)
    exact (grownElsewhere there other).trans holds.found
  | _ => exact holds.found

end Kept

section Run

variable {s : Session} {i : Input} {g r : Handle} {c : Cell} {fits : Option Handle → Prop}

theorem viewedNil : ¬ s.Viewed g fits [] := by
  rintro ⟨front, back, split, _⟩
  simp at split

theorem viewedCons {rest : List Input} : s.Viewed g fits (i :: rest) ↔
    i = .children (some g) ∧ fits s.root ∨ (s.step i).1.Viewed g fits rest := by
  constructor
  · rintro ⟨front, back, split, fit⟩
    cases front with
    | nil =>
      obtain ⟨own, _⟩ := List.cons.inj split
      exact .inl ⟨own, fit⟩
    | cons first front =>
      obtain ⟨rfl, later⟩ := List.cons.inj split
      rw [afterCons] at fit
      exact .inr ⟨front, back, later, fit⟩
  · rintro (⟨rfl, fit⟩ | ⟨front, back, rfl, fit⟩)
    · exact ⟨[], rest, rfl, fit⟩
    · exact ⟨i :: front, back, rfl, by rwa [afterCons]⟩

theorem afterHolds (holds : s.Holds g c) (rest : List Input) :
    (s.Viewed g (· ≠ none) rest → (s.after rest).Holds g c.shown) ∧
      (¬ s.Viewed g (· ≠ none) rest → (s.after rest).Holds g c) := by
  induction rest generalizing s c with
  | nil => exact ⟨fun viewed => absurd viewed viewedNil, fun _ => holds⟩
  | cons i rest ih =>
    rw [afterCons, viewedCons]
    by_cases first : i = .children (some g) ∧ s.root ≠ none
    · obtain ⟨rfl, active⟩ := first
      obtain ⟨top, root⟩ := Option.ne_none_iff_exists'.mp active
      have again : c.shown.shown = c.shown := by simp [Cell.shown, holds.group]
      obtain ⟨seen, unseen⟩ := ih (viewedHolds holds root)
      rw [again] at seen
      refine ⟨fun _ => ?_, fun none => absurd (.inl ⟨rfl, active⟩) none⟩
      by_cases later : (s.step (.children (some g))).1.Viewed g (· ≠ none) rest
      · exact seen later
      · exact unseen later
    · obtain ⟨seen, unseen⟩ := ih (unviewedHolds holds (stepMoves s i) first)
      exact ⟨fun viewed => seen (viewed.resolve_left first), fun none => unseen fun later =>
        none (.inr later)⟩

theorem afterGroup (holds : s.Holds g c) (unseen : c.revealed = false) (rest : List Input) :
    ∃ c', (s.after rest).Holds g c' ∧ c'.identity = c.identity ∧ c'.numChildren = c.numChildren ∧
      (c'.revealed = true ↔ s.Viewed g (· ≠ none) rest) := by
  obtain ⟨seen, still⟩ := afterHolds holds rest
  have shown : c.shown = { c with revealed := true } := by simp [Cell.shown, holds.group]
  by_cases viewed : s.Viewed g (· ≠ none) rest
  · have kept := seen viewed
    rw [shown] at kept
    exact ⟨_, kept, rfl, rfl, iff_of_true rfl viewed⟩
  · exact ⟨c, still viewed, rfl, rfl, iff_of_false (by simp [unseen]) viewed⟩

theorem rootGone (there : r < s.forest.length) (gone : s.root ≠ some r) (rest : List Input) :
    (s.after rest).root ≠ some r := by
  induction rest generalizing s with
  | nil => exact gone
  | cons i rest ih =>
    have turns := movesTurns (stepMoves s i)
    rw [afterCons]
    refine ih (Nat.lt_of_lt_of_le there (turnsLength turns)) ?_
    rcases turnsRoot turns with same | none | fresh
    · exact same ▸ gone
    · simp [none]
    · rw [fresh]
      exact fun own => Nat.ne_of_gt there (Option.some.inj own)

theorem afterLength (s : Session) (rest : List Input) :
    s.forest.length ≤ (s.after rest).forest.length := by
  induction rest generalizing s with
  | nil => exact Nat.le_refl _
  | cons i rest ih =>
    rw [afterCons]
    exact Nat.le_trans (turnsLength (movesTurns (stepMoves s i))) (ih _)

theorem viewedCurrent (there : r < s.forest.length) {rest : List Input}
    (current : (s.after rest).root = some r) :
    s.Viewed g (· ≠ none) rest ↔ s.Viewed g (· = some r) rest := by
  constructor
  · rintro ⟨front, back, rfl, _⟩
    refine ⟨front, back, rfl, ?_⟩
    by_contra other
    rw [afterAppend] at current
    exact rootGone (Nat.lt_of_lt_of_le there (afterLength s front)) other _ current
  · rintro ⟨front, back, split, own⟩
    exact ⟨front, back, split, by simp [own]⟩

end Run

theorem groupsHolds {s : Session} {i : Input} {r g : Handle} (grounded : s.Grounded)
    (groups : s.Groups i r g) : ∃ c, (s.step i).1.Holds g c ∧ c.revealed = false ∧
      c.identity = Forest.groupIdentity ∧ r < (s.step i).1.forest.length := by
  obtain ⟨⟨t, installs⟩, reports, first⟩ := groups
  have moves := stepMoves s i
  have turns := movesTurns moves
  have waits : ∀ t under, (t, Pending.expansion g under) ∈ (s.step i).1.waiting →
      g < s.forest.length := by
    intro t under mem
    rcases movesWaiting moves mem with old | new
    · exact grounded.targets t g under old
    · exact beginsTarget new rfl
  rw [installs] at turns
  generalize planted : (s.step i).1.forest = f, (s.step i).1.root = root at turns first
  cases turns with
  | installs own built =>
    cases built with
    | call read => simp [Session.reports, own] at reports
    | @merged _ entry base _ read joined =>
      have some : base.numChildren ≠ 0 := by
        rintro none
        simp [Session.reports, own, read, none] at reports
      obtain ⟨_, rfl⟩ := Node.mergeGroup some joined
      have place : g = s.forest.length + 1 := by
        rw [Forest.childrenOf Forest.groupedRoot] at first
        exact (Option.some.inj first).symm
      subst place
      have cell := Forest.groupedCell s.forest entry (Node.baseGroup base.children)
      rw [← planted] at cell
      have full : ((Node.baseGroup base.children).cell (s.forest.length + 2)).isMaterialized =
          true := by
        rw [Node.cellFull, Node.groupMaterialized]
      have behind : s.forest.length + 1 < (s.step (.reply t _)).1.forest.length :=
        (List.getElem?_eq_some_iff.mp cell).1
      refine ⟨_, ⟨cell, rfl, full, fun t under mem => ?_⟩, rfl, rfl, ?_⟩
      · exact absurd (waits t under mem) (Nat.not_lt_of_le (Nat.le_succ _))
      · rw [← planted]
        exact Nat.lt_of_succ_lt behind

end Session
end SymbolHierarchy
