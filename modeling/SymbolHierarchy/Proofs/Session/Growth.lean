import SymbolHierarchy.Proofs.Session.Grounds
import SymbolHierarchy.Proofs.Session.Openings
import SymbolHierarchy.Proofs.Session.Reading
import SymbolHierarchy.Proofs.Session.Replacement

/-! What a run makes of the nodes of a session. Each is written down as it was made, and so is
every reply that brings children; a node holds what the last reply for it brought, or what it was
made with. -/
namespace SymbolHierarchy

structure Growth where
  target : Handle
  base : Handle
  reply : Node

def Growth.brings (g : Growth) (k : Kind) (d : Bool) : List Node :=
  Session.adopted k d g.reply.children

def lastGrowth (gs : List Growth) (h : Handle) : Option Growth :=
  (gs.filter fun g => g.target == h).getLast?

theorem lastGrowthMem {gs : List Growth} {h g} (last : lastGrowth gs h = some g) :
    g ∈ gs ∧ g.target = h := by
  have mem := List.mem_of_getLast? last
  rw [List.mem_filter] at mem
  exact ⟨mem.1, by simpa using mem.2⟩

theorem lastGrowthOwn (gs : List Growth) (g : Growth) :
    lastGrowth (gs ++ [g]) g.target = some g := by
  simp [lastGrowth, List.filter_append]

theorem lastGrowthOther (gs : List Growth) {g : Growth} {h : Handle} (other : g.target ≠ h) :
    lastGrowth (gs ++ [g]) h = lastGrowth gs h := by
  simp [lastGrowth, List.filter_append, other]

structure Recorded (k : Kind) (f made : Forest) (gs : List Growth) : Prop where
  length : made.length = f.length
  ordered : made.Ordered
  grown : ∀ (h : Nat) c g, f[h]? = some c → lastGrowth gs h = some g →
    c.numChildren = g.reply.numChildren ∧
      c.children = placesFrom g.base (g.brings k c.facet.wantsDerived)
  kept : ∀ (h : Nat) c, f[h]? = some c → lastGrowth gs h = none →
    ∃ b, made[h]? = some b ∧ c.numChildren = b.numChildren ∧ c.children = b.children
  held : ∀ g ∈ gs, ∃ c, f[g.target]? = some c ∧
    made.Holds g.base (Node.cellsAll g.base (g.brings k c.facet.wantsDerived))

namespace Forest

theorem Holds.extend {f : Forest} {base : Nat} {cells : List Cell} (holds : f.Holds base cells)
    (more : List Cell) : Holds (f ++ more) base cells := by
  intro i inside
  have own := holds i inside
  rw [List.getElem?_eq_getElem inside] at own
  have old := (List.getElem?_eq_some_iff.mp own).1
  rw [List.getElem?_append_left old, own, List.getElem?_eq_getElem inside]

theorem plantAllNew {f made : Forest} (same : made.length = f.length) (ns : List Node) {i : Nat}
    (new : f.length ≤ i) : (made.plantAll ns)[i]? = (f.plantAll ns)[i]? := by
  rw [plantAll, plantAll, List.getElem?_append_right (same ▸ new),
    List.getElem?_append_right new, same]

end Forest

section Recorded

variable {k : Kind} {f made : Forest} {gs : List Growth}

theorem recordedShown (recorded : Recorded k f made gs) (h : Handle) :
    Recorded k (f.shown h) made gs := by
  have before : ∀ (i : Nat) c, (f.shown h)[i]? = some c →
      ∃ old, f[i]? = some old ∧ c.facet = old.facet ∧ c.numChildren = old.numChildren ∧
        c.children = old.children := by
    intro i c found
    obtain ⟨told, there⟩ := Forest.shownAt f h i
    rw [there, Option.map_eq_some_iff] at found
    obtain ⟨old, was, rfl⟩ := found
    exact ⟨old, was, rfl, rfl, rfl⟩
  refine ⟨recorded.length.trans (Forest.shownLength f h).symm, recorded.ordered, ?_, ?_, ?_⟩
  · intro i c g found last
    obtain ⟨old, was, facet, count, children⟩ := before i c found
    rw [facet, count, children]
    exact recorded.grown i old g was last
  · intro i c found last
    obtain ⟨old, was, _, count, children⟩ := before i c found
    rw [count, children]
    exact recorded.kept i old was last
  · intro g mem
    obtain ⟨c, found, holds⟩ := recorded.held g mem
    obtain ⟨told, there⟩ := Forest.shownAt f h g.target
    exact ⟨_, there.trans (congrArg _ found), holds⟩

theorem recordedPlant (recorded : Recorded k f made gs) (ns : List Node) :
    Recorded k (f.plantAll ns) (made ++ Node.cellsAll f.length ns) gs := by
  have same : made ++ Node.cellsAll f.length ns = made.plantAll ns := by
    rw [Forest.plantAll, recorded.length]
  rw [same]
  refine ⟨?_, Forest.plantAllOrdered recorded.ordered, ?_, ?_, ?_⟩
  · rw [Forest.plantAllLength, Forest.plantAllLength, recorded.length]
  · intro i c g found last
    obtain ⟨mem, rfl⟩ := lastGrowthMem last
    obtain ⟨_, there, _⟩ := recorded.held g mem
    have old := (List.getElem?_eq_some_iff.mp there).1
    rw [Forest.plantAllKeeps f ns _ old] at found
    exact recorded.grown _ c g found last
  · intro i c found last
    rcases Nat.lt_or_ge i f.length with old | new
    · rw [Forest.plantAllKeeps f ns i old] at found
      obtain ⟨b, there, same⟩ := recorded.kept i c found last
      exact ⟨b, (Forest.plantAllKeeps made ns i (recorded.length ▸ old)).trans there, same⟩
    · exact ⟨c, (Forest.plantAllNew recorded.length ns new).trans found, rfl, rfl⟩
  · intro g mem
    obtain ⟨c, there, holds⟩ := recorded.held g mem
    have old := (List.getElem?_eq_some_iff.mp there).1
    exact ⟨c, (Forest.plantAllKeeps f ns _ old).trans there, holds.extend _⟩

theorem recordedAdopt (recorded : Recorded k f made gs) {g : Growth} {own : Cell}
    (there : f[g.target]? = some own)
    (holds : made.Holds g.base (Node.cellsAll g.base (g.brings k own.facet.wantsDerived))) :
    Recorded k
      (f.adopt g.target g.reply.numChildren
        (placesFrom g.base (g.brings k own.facet.wantsDerived)))
      made (gs ++ [g]) := by
  refine ⟨recorded.length.trans (Forest.adoptLength _ _ _ _).symm, recorded.ordered, ?_, ?_, ?_⟩
  · intro i c g' found last
    rw [Forest.adoptAt, Option.map_eq_some_iff] at found
    obtain ⟨old, was, rfl⟩ := found
    by_cases here : g.target = i
    · subst here
      cases there.symm.trans was
      cases (lastGrowthOwn gs g).symm.trans last
      simp
    · rw [lastGrowthOther gs here] at last
      simpa [here] using recorded.grown i old g' was last
  · intro i c found last
    rw [Forest.adoptAt, Option.map_eq_some_iff] at found
    obtain ⟨old, was, rfl⟩ := found
    by_cases here : g.target = i
    · subst here
      rw [lastGrowthOwn] at last
      cases last
    · rw [lastGrowthOther gs here] at last
      simpa [here] using recorded.kept i old was last
  · intro g' mem
    have before : ∃ c, f[g'.target]? = some c ∧
        made.Holds g'.base (Node.cellsAll g'.base (g'.brings k c.facet.wantsDerived)) := by
      rcases List.mem_append.mp mem with old | new
      · exact recorded.held g' old
      · cases List.mem_singleton.mp new
        exact ⟨own, there, holds⟩
    obtain ⟨c, found, held⟩ := before
    refine ⟨_, (Forest.adoptAt _ _ _ _ _).trans (congrArg _ found), ?_⟩
    split <;> exact held

end Recorded

namespace Session

def growth? (s : Session) : Input → Option Growth
  | .reply t r =>
    match s.pending? t, s.decode r with
    | some (.expansion h _), .ok n => some ⟨h, s.forest.length, n⟩
    | _, _ => none
  | _ => none

def growths (s : Session) : List Input → List Growth
  | [] => []
  | i :: rest => (s.growth? i).toList ++ growths (s.step i).1 rest

def births (s : Session) : List Input → Forest
  | [] => []
  | i :: rest => (s.step i).1.forest.drop s.forest.length ++ births (s.step i).1 rest

inductive Alters (s : Session) : Input → Forest → Option Growth → Prop
  | rests {i} : Alters s i s.forest none
  | looks {i h f} (asks : Asks s i h f) : Alters s i f none
  | plants {i} (n : Node) : Alters s i (s.forest.plant n) none
  | grows {t r h under n} (waits : s.pending? t = some (.expansion h under))
      (read : s.decode r = .ok n) :
      Alters s (.reply t r) (s.grown h n) (some ⟨h, s.forest.length, n⟩)

theorem asksGrowth {s : Session} {i h f} (asks : Asks s i h f) : s.growth? i = none := by
  cases asks <;> rfl

theorem movesAlters {s i s' es} (moves : Moves s i s' es) :
    Alters s i s'.forest (s.growth? i) := by
  cases moves with
  | starts | closes | idle | listsRoot => exact .rests
  | absent asks | atHand asks | fetches asks | refuses asks =>
    exact asksGrowth asks ▸ .looks asks
  | unexpected stray =>
    rw [growth?, stray]
    exact .rests
  | enters waits =>
    rw [growth?, waits]
    exact .rests
  | installs waits built =>
    rw [growth?, waits]
    cases built <;> exact .plants _
  | discards waits built =>
    rw [growth?, waits]
    cases built <;> exact .rests
  | @fails _ _ p _ waits failed =>
    rw [growth?, waits]
    cases failed with
    | refused bad =>
      rw [bad]
      cases p <;> exact .rests
    | unmaterialized => exact .rests
  | grows waits read =>
    rw [growth?, waits, read]
    exact .grows waits read

theorem grownDrop {s : Session} {h : Nat} {n : Node} (target : h < s.forest.length) :
    (s.grown h n).drop s.forest.length =
      Node.cellsAll s.forest.length (s.newChildren h n) := by
  rw [grown, Forest.adopt, List.drop_modify_of_lt _ _ _ _ target, Forest.plantAll,
    List.drop_left]

theorem altersRecorded {s : Session} {i f grows made gs} (grounded : s.Grounded)
    (alters : Alters s i f grows) (recorded : Recorded s.kind s.forest made gs) :
    Recorded s.kind f (made ++ f.drop s.forest.length) (gs ++ grows.toList) := by
  cases alters with
  | rests => simpa using recorded
  | looks asks =>
    have same : f.drop s.forest.length = [] := by simp [asksLength asks]
    rw [same, Option.toList_none, List.append_nil, List.append_nil]
    cases asks with
    | expanding => exact recorded
    | viewing => exact recordedShown recorded _
  | plants n =>
    have planted := recordedPlant recorded [n]
    rw [Forest.plantOne, Forest.plantAll, List.drop_left]
    simpa [Forest.plantAll] using planted
  | @grows _ _ h _ n waits read =>
    have target := grounded.targets _ _ _ (pendingWaits waits)
    obtain ⟨own, there⟩ : ∃ own, s.forest[h]? = some own := ⟨_, List.getElem?_eq_getElem target⟩
    have brought : s.newChildren h n =
        Growth.brings ⟨h, s.forest.length, n⟩ s.kind own.facet.wantsDerived := by
      simp [newChildren, directionOf, there, Growth.brings]
    have planted := recordedPlant recorded (s.newChildren h n)
    have own := (Forest.plantAllKeeps s.forest (s.newChildren h n) h target).trans there
    rw [grownDrop target, grown, brought]
    refine recordedAdopt (g := ⟨h, s.forest.length, n⟩) (brought ▸ planted) (brought ▸ own) ?_
    intro i inside
    rw [← recorded.length, List.getElem?_append_right (Nat.le_add_right _ _),
      Nat.add_sub_cancel_left]

theorem afterRecorded {s : Session} {made gs} (grounded : s.Grounded)
    (recorded : Recorded s.kind s.forest made gs) (inputs : List Input) :
    Recorded s.kind (s.after inputs).forest (made ++ s.births inputs)
      (gs ++ s.growths inputs) := by
  induction inputs generalizing s made gs with
  | nil => simpa [births, growths, afterNil] using recorded
  | cons i rest ih =>
    have moves := stepMoves s i
    have next := altersRecorded grounded (movesAlters moves) recorded
    rw [← movesKind moves] at next ⊢
    rw [afterCons, births, growths, ← List.append_assoc, ← List.append_assoc]
    exact ih (movesGrounded moves grounded) next

theorem freshRecorded (k : Kind) : Recorded k (fresh k).forest [] [] where
  length := rfl
  ordered := by simp [Forest.Ordered, Forest.childrenAt]
  grown := by simp [fresh]
  kept := by simp [fresh]
  held := by simp

theorem grownElsewhere {s : Session} {h x : Nat} {n : Node} (old : x < s.forest.length)
    (other : h ≠ x) : (s.grown h n)[x]? = s.forest[x]? := by
  rw [grown, Forest.adoptElsewhere _ _ _ _ _ other, Forest.plantAllKeeps _ _ _ old]

theorem replyElsewhere {s : Session} {t : Ticket} {r : Reply} {x : Nat}
    (old : x < s.forest.length) (other : ∀ under, s.pending? t ≠ some (.expansion x under)) :
    (s.step (.reply t r)).1.forest[x]? = s.forest[x]? := by
  have alters := movesAlters (stepMoves s (.reply t r))
  generalize (s.step (.reply t r)).1.forest = f at alters ⊢
  generalize s.growth? (.reply t r) = grows at alters
  cases alters with
  | rests => rfl
  | looks asks => cases asks
  | plants n => exact Forest.plantKeeps _ _ _ old
  | grows waits read =>
    refine grownElsewhere old ?_
    rintro rfl
    exact other _ waits

end Session
end SymbolHierarchy
