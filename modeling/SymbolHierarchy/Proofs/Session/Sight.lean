import SymbolHierarchy.Proofs.Session.Growth

/-! What a view shows of a session, and which steps change it. All that does so is announced,
but for one thing: a view that asks for the children of a closed group opens it unannounced. -/
namespace SymbolHierarchy

inductive Look
  | of (label : Except Raised String) (state : CollapseState) (below : List Look)

def Face.look (n : Face) (below : List Look) : Look := .of n.label n.collapseState below

namespace Node

mutual
def look : Node → Look
  | .mk s f k cs y r => (Face.mk s f k cs.length y r).look (lookAll cs)
def lookAll : List Node → List Look
  | [] => []
  | n :: rest => look n :: lookAll rest
end

theorem lookAllMap (ns : List Node) : lookAll ns = ns.map look := by
  induction ns with
  | nil => rfl
  | cons n rest ih => rw [lookAll, ih, List.map_cons]

theorem lookFold (n : Node) : n.look = n.face.look (n.children.map look) := by
  cases n
  rw [look, lookAllMap]
  rfl

end Node

namespace Forest

theorem shownExact (f : Forest) (h i : Handle) :
    (f.shown h)[i]? =
      f[i]?.map fun c => if h = i ∧ c.synthetic then { c with revealed := true } else c := by
  unfold shown
  by_cases here : h = i
  · subst here
    cases found : f[h]? with
    | none => simp [found]
    | some c => cases group : c.synthetic <;> simp [revealAt, found, group]
  · split
    · split
      · simp [revealElsewhere _ _ _ here, here]
      · simp [here]
    · simp [here]

theorem lookBelow {f f' : Forest} (ordered : f.Ordered) (ordered' : f'.Ordered)
    (same : ∀ x : Nat, f'.childrenAt x = f.childrenAt x) (count : f'.length = f.length)
    {top h : Nat} (inside : top < f.length)
    (alike : (f'.tree? top).map Node.look = (f.tree? top).map Node.look)
    (below : f.Below top h) : (f'.tree? h).map Node.look = (f.tree? h).map Node.look := by
  induction below with
  | self => exact alike
  | @child h child above mem ih =>
    have there : h < f.length := belowInside ordered inside above
    have there' : h < f'.length := count ▸ there
    have found := List.getElem?_eq_getElem there
    have found' := List.getElem?_eq_getElem there'
    obtain ⟨ls, read, tree⟩ := seenAt Node.lookFold ordered found
    obtain ⟨ls', read', tree'⟩ := seenAt Node.lookFold ordered' found'
    rw [tree, tree', Option.some.injEq, Face.look, Face.look, Look.of.injEq] at ih
    rw [← childrenOf found] at read
    rw [← childrenOf found', same, ih.2.2, ← read] at read'
    exact List.map_inj_left.mp read' child mem

end Forest

namespace Session

def look? (s : Session) : Option Look := s.root.bind fun r => (s.forest.tree? r).map Node.look

/- A view asks for the children of a group that it shows closed. -/
inductive Unveils (s : Session) : Input → Prop
  | group {r h c} (active : s.root = some r) (below : s.forest.Below r h)
      (found : s.forest[h]? = some c) (synthetic : c.synthetic = true)
      (closed : c.revealed = false) (full : c.numChildren ≠ 0) :
      Unveils s (.children (some h))

theorem asksAlike {s : Session} {i h f} {r : Nat} (asks : Asks s i h f) (active : s.root = some r)
    (still : ¬ s.Unveils i) : Forest.Alike Face.look s.forest f r := by
  intro x below c found
  cases asks with
  | expanding => exact ⟨c, found, rfl, fun _ => rfl⟩
  | viewing =>
    have there := Forest.shownExact s.forest h x
    rw [found, Option.map_some] at there
    by_cases group : h = x ∧ c.synthetic = true
    · rw [if_pos group] at there
      refine ⟨_, there, rfl, ?_⟩
      intro ls
      obtain ⟨rfl, synthetic⟩ := group
      cases closed : c.revealed with
      | true => simp [Cell.face, closed]
      | false =>
        have empty : c.numChildren = 0 := by
          by_contra full
          exact still (.group active below found synthetic closed full)
        simp [Face.look, Cell.face, Face.label, Face.collapseState, empty]
    · rw [if_neg group] at there
      exact ⟨c, there, rfl, fun _ => rfl⟩

theorem asksLook {s : Session} {i h f} (grounded : s.Grounded) (asks : Asks s i h f)
    (still : ¬ s.Unveils i) : { s with forest := f }.look? = s.look? := by
  cases active : s.root with
  | none => simp [look?, active]
  | some r =>
    have alike := asksAlike asks active still
    have same := Forest.alikeSeen Node.lookFold grounded.ordered
      (asksOrdered asks grounded.ordered) alike (grounded.root r active)
    simpa [look?, active] using same

theorem quietGrowthLook {s : Session} {t h under} (n : Node) (grounded : s.Grounded)
    (waits : s.pending? t = some (.expansion h under))
    (quiet : (s.root.isSome && s.root == under) = false) :
    { s with forest := s.grown h n }.look? = s.look? := by
  cases active : s.root with
  | none => simp [look?, active]
  | some q =>
    have inside := grounded.root q active
    have front : h < q := by
      by_contra behind
      have same := grounded.present t h q under (pendingWaits waits) active (Nat.le_of_not_lt behind)
      simp [active, same] at quiet
    have kept := Forest.treeKept grounded.ordered
      (grownOrdered (n := n) grounded.ordered (grounded.targets _ _ _ (pendingWaits waits))) inside
      (fun x below => ?_)
    · simp [look?, active, kept]
    · refine grownElsewhere (Forest.belowInside grounded.ordered inside below) ?_
      have behind := Forest.belowOrdered grounded.ordered below
      exact Nat.ne_of_lt (Nat.lt_of_lt_of_le front behind)

theorem quietLook {s i s' es} (grounded : s.Grounded) (moves : Moves s i s' es)
    (still : ¬ s.Unveils i) (quiet : Effect.announce ∉ es) : s'.look? = s.look? := by
  cases moves with
  | closes =>
    cases active : s.root with
    | none => simp [look?, active]
    | some r => simp [isActive, active] at quiet
  | absent asks | atHand asks | fetches asks | refuses asks => exact asksLook grounded asks still
  | installs => simp at quiet
  | @grows t _ h under n waits =>
    have untold : (s.root.isSome && s.root == under) = false := by simpa using quiet
    have same := quietGrowthLook n grounded waits untold
    exact same
  | _ => rfl

theorem viewMoves {s s' es} {r h : Handle} (active : s.root = some r)
    (moves : Moves s (.children (some h)) s' es) :
    s'.root = s.root ∧ s'.forest = s.forest.shown h ∧ Effect.announce ∉ es := by
  cases moves with
  | idle inactive => simp [active] at inactive
  | absent asks | atHand asks | fetches asks | refuses asks =>
    cases asks
    simp

theorem unveiledLook {s : Session} {i} (grounded : s.Grounded) (unveils : s.Unveils i) :
    (s.step i).1.look? ≠ s.look? ∧ Effect.announce ∉ (s.step i).2 := by
  cases unveils with
  | @group r h c active below found synthetic closed full =>
    obtain ⟨root, forest, quiet⟩ := viewMoves active (stepMoves s (.children (some h)))
    refine ⟨?_, quiet⟩
    intro same
    have ordered := Forest.shownOrdered grounded.ordered h
    have top : ((s.forest.shown h).tree? r).map Node.look = (s.forest.tree? r).map Node.look := by
      simpa [look?, root, forest, active] using same
    have here := Forest.lookBelow grounded.ordered ordered (Forest.shownChildren s.forest h)
      (Forest.shownLength s.forest h) (grounded.root r active) top below
    have told : (s.forest.shown h)[h]? = some { c with revealed := true } := by
      rw [Forest.shownExact, found, Option.map_some, if_pos ⟨rfl, synthetic⟩]
    obtain ⟨ls, _, tree⟩ := Forest.seenAt Node.lookFold grounded.ordered found
    obtain ⟨ls', _, tree'⟩ := Forest.seenAt Node.lookFold ordered told
    rw [tree, tree', Option.some.injEq, Face.look, Face.look, Look.of.injEq] at here
    simp [Face.collapseState, Cell.face, synthetic, closed, full] at here

/- A step changes what a view would show without announcing it just when it opens a group that
was shown closed. -/
theorem silentExactly (k : Kind) (inputs : List Input) (i : Input) :
    ((((fresh k).after inputs).step i).1.look? ≠ ((fresh k).after inputs).look? ∧
        Effect.announce ∉ (((fresh k).after inputs).step i).2) ↔
      ((fresh k).after inputs).Unveils i := by
  have grounded := afterGrounded k inputs
  refine ⟨?_, unveiledLook grounded⟩
  rintro ⟨changed, quiet⟩
  by_contra still
  exact changed (quietLook grounded (stepMoves _ i) still quiet)

def grouped : Session :=
  (fresh .inheritance).after
    [.open ⟨"file:///p.cpp", ⟨0, 0⟩⟩,
      .reply 0 (.ok (.object [("id", .int 1), ("name", .text "A"), ("numChildren", .int 0)])),
      .reply 0 (.ok (.object [("id", .int 1), ("name", .text "A"), ("numChildren", .int 1),
        ("children", .list [.object [("id", .int 2), ("name", .text "B"),
          ("numChildren", .int 0)]])]))]

theorem groupOpensSilently :
    (grouped.step (.children (some 1))).1.look? ≠ grouped.look? ∧
      Effect.announce ∉ (grouped.step (.children (some 1))).2 := by
  have before : grouped.look? =
      some (.of (.ok "A") .expanded [.of (.ok "[[Base]]") .collapsed [.of (.ok "B") .none []]]) :=
    rfl
  have after : (grouped.step (.children (some 1))).1.look? =
      some (.of (.ok "A") .expanded [.of (.ok "[[Base]]") .expanded [.of (.ok "B") .none []]]) :=
    rfl
  have told : (grouped.step (.children (some 1))).2 = [.finished 1 (.listed (.ok [2]))] := rfl
  rw [before, after, told]
  simp

end Session
end SymbolHierarchy
