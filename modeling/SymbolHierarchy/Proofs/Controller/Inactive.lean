import SymbolHierarchy.Proofs.Controller.Pairing

/-! What can still be asked of a hierarchy that has no root. It lists nothing, closes in silence and
asks no server; whatever is asked of it leaves every node where it was. A click alone still goes to
its node: nobody looks at the root for it, and it goes where its own history says. -/
namespace SymbolHierarchy

def Action.commands {τ : Type} (k : Kind) : Action τ → Bool
  | .session j (.children _) => j = k
  | .visit j _ => j = k
  | .close j => j = k
  | .activate j _ _ _ => j = k
  | _ => false

theorem Action.timedCommands {σ τ : Type} (read : σ → τ) (k : Kind) (a : Action σ) :
    (a.timed read).commands k = a.commands k := by
  cases a with
  | session j i => cases i <;> rfl
  | _ => rfl

namespace Session

structure Unmoved (s s' : Session) : Prop where
  forest : s'.forest = s.forest
  root : s'.root = s.root
  waiting : s'.waiting = s.waiting

theorem Unmoved.trans {s s' s'' : Session} (first : s.Unmoved s') (second : s'.Unmoved s'') :
    s.Unmoved s'' where
  forest := second.forest.trans first.forest
  root := second.root.trans first.root
  waiting := second.waiting.trans first.waiting

theorem idleLists {s : Session} (idle : s.root = none) (node : Option Handle) :
    s.step (.children node) = (s.issue, [.finished s.issued (.listed (.ok []))]) := by
  simp [step, children, issue, idle]

theorem idleCloses {s : Session} (idle : s.root = none) :
    s.step .close = ({ s with generation := s.generation + 1 }, []) := by
  simp [step, close, isActive, idle]

end Session

namespace Controller

variable {τ : Type} {paths : Paths} {lapse : τ → τ → Lapse} {c : Controller τ} {k : Kind}
  {a : Action τ}

theorem stepsUnmoved {c' : Controller τ} {home : Kind} {i : Input} {rs : List Response}
    (steps : Steps c c' k home i rs)
    (stays : (c.drawn k home).Unmoved ((c.drawn k home).step i).1) (j : Kind) :
    (c.sessions.get j).Unmoved (c'.sessions.get j) where
  forest := by
    by_cases there : home = j
    · subst there
      exact steps.nodes.trans stays.forest
    · exact steps.away j there
  root := by
    by_cases own : k = j
    · subst own
      exact (Session.bareFields steps.own).2.1.trans stays.root
    · exact (Session.bareFields (steps.other j own)).2.1
  waiting := by
    by_cases own : k = j
    · subst own
      exact (Session.bareFields steps.own).2.2.1.trans stays.waiting
    · exact (Session.bareFields (steps.other j own)).2.2.1

theorem drawnLists (idle : (c.sessions.get k).root = none) {home : Kind} (node : Option Handle) :
    (c.drawn k home).step (.children node) =
      ((c.drawn k home).issue, [.finished (c.sessions.get k).issued (.listed (.ok []))]) :=
  Session.idleLists (s := c.drawn k home) idle node

theorem drawnCloses (idle : (c.sessions.get k).root = none) {home : Kind} :
    (c.drawn k home).step .close =
      ({ c.drawn k home with generation := (c.drawn k home).generation + 1 }, []) :=
  Session.idleCloses (s := c.drawn k home) idle

theorem idleUnmoved (idle : (c.sessions.get k).root = none) (command : a.commands k = true)
    (j : Kind) : (c.sessions.get j).Unmoved ((c.step paths lapse a).1.sessions.get j) := by
  have lists : ∀ home node, (c.drawn k home).Unmoved
      ((c.drawn k home).step (.children node)).1 := by
    intro home node
    rw [drawnLists idle]
    exact ⟨rfl, rfl, rfl⟩
  cases a with
  | session j' i =>
    cases i with
    | children node =>
      have own : j' = k := by simpa [Action.commands] using command
      subst own
      exact stepsUnmoved (stepSteps paths lapse c rfl) (lists _ node) j
    | _ => cases command
  | visit j' h =>
    have own : j' = k := by simpa [Action.commands] using command
    subst own
    exact stepsUnmoved (stepSteps paths lapse c rfl) (lists _ (some h)) j
  | close j' =>
    have own : j' = k := by simpa [Action.commands] using command
    subst own
    refine stepsUnmoved (stepSteps paths lapse c rfl) ?_ j
    rw [drawnCloses idle]
    exact ⟨rfl, rfl, rfl⟩
  | activate => exact ⟨rfl, rfl, rfl⟩
  | navigate => cases command

theorem idleListed (idle : (c.sessions.get k).root = none) (node : Option Handle) :
    (c.step paths lapse (.session k (.children node))).2 =
      [.session k k (.finished (c.sessions.get k).issued (.listed (.ok [])))] := by
  have told := (stepSteps paths lapse c (a := .session k (.children node)) rfl).told
  rw [drawnLists idle] at told
  exact told

theorem idleVisited (idle : (c.sessions.get k).root = none) (h : Handle) :
    (c.step paths lapse (.visit k h)).2 =
      [.session k k.other (.finished (c.sessions.get k).issued (.listed (.ok [])))] := by
  have told := (stepSteps paths lapse c (a := .visit k h) rfl).told
  rw [drawnLists idle] at told
  exact told

theorem idleClosed (idle : (c.sessions.get k).root = none) :
    (c.step paths lapse (.close k)).2 = [] := by
  have told := (stepSteps paths lapse c (a := .close k) rfl).told
  rw [drawnCloses idle] at told
  exact told

section Runs

variable {σ : Type} (paths : Paths) (clock : Timepiece σ) (window : Reading)

def reached (before : List (Action σ)) : Controller Reading :=
  ({} : Controller Reading).after paths (Reading.lapse window)
    (before.map (Action.timed clock.read))

def told (before : List (Action σ)) (a : Action σ) : List Response :=
  ((reached paths clock window before).step paths (Reading.lapse window)
    (a.timed clock.read)).2

theorem reachedSnoc (before : List (Action σ)) (a : Action σ) :
    reached paths clock window (before ++ [a]) =
      ((reached paths clock window before).step paths (Reading.lapse window)
        (a.timed clock.read)).1 := by
  simp [reached, after]

/- What a hierarchy without a root answers after a run. Of all commands only a click can have an
effect: it goes to a leaf with a location at once, and to any other node with one as the second
click on it within the window. -/
structure Answers (before : List (Action σ)) (k : Kind) : Prop where
  lists : ∀ node, ∃ t, told paths clock window before (.session k (.children node)) =
    [.session k k (.finished t (.listed (.ok [])))]
  visits : ∀ h, ∃ t, told paths clock window before (.visit k h) =
    [.session k k.other (.finished t (.listed (.ok [])))]
  closes : told paths clock window before (.close k) = []
  goes : ∀ s hasChildren now,
    Goes paths s (told paths clock window before (.activate k s hasChildren now)) ↔
      s.location.isSome = true ∧ (hasChildren = false ∨
        ∃ span, Second clock window before k s now span ∧ span.toDouble?.isSome = true)
  fails : ∀ s hasChildren now,
    told paths clock window before (.activate k s hasChildren now) = [.failed .notDouble] ↔
      s.location.isSome = true ∧ hasChildren = true ∧
        ∃ span, Second clock window before k s now span ∧ span.toDouble?.isSome = false
  stays : ∀ s hasChildren now,
    let answer := told paths clock window before (.activate k s hasChildren now)
    Goes paths s answer ∨ answer = [.failed .notDouble] ∨ answer = [.activated false]

variable {paths clock window} {before : List (Action σ)} {k : Kind}

theorem idleAnswers (idle : ((reached paths clock window before).sessions.get k).root = none) :
    Answers paths clock window before k where
  lists node := ⟨_, idleListed idle node⟩
  visits h := ⟨_, idleVisited idle h⟩
  closes := idleClosed idle
  goes _ hasChildren _ := (clickEnds hasChildren).1
  fails _ hasChildren _ := (clickEnds hasChildren).2.1
  stays _ hasChildren _ := (clickEnds hasChildren).2.2

/- However many commands are given to a hierarchy without a root: neither session moves, and each
command is answered as the first one is. -/
theorem inactiveRests (idle : ((reached paths clock window before).sessions.get k).root = none)
    (commands : List (Action σ)) (all : ∀ a ∈ commands, a.commands k = true) :
    (∀ j, ((reached paths clock window before).sessions.get j).Unmoved
        ((reached paths clock window (before ++ commands)).sessions.get j)) ∧
      Answers paths clock window (before ++ commands) k := by
  suffices unmoved : ∀ j, ((reached paths clock window before).sessions.get j).Unmoved
      ((reached paths clock window (before ++ commands)).sessions.get j) from
    ⟨unmoved, idleAnswers ((unmoved k).root.trans idle)⟩
  induction commands using List.reverseRecOn with
  | nil =>
    intro j
    rw [List.append_nil]
    exact ⟨rfl, rfl, rfl⟩
  | append_singleton earlier a ih =>
    have sofar := ih fun b mem => all b (List.mem_append_left _ mem)
    have command : (a.timed clock.read).commands k = true := by
      rw [Action.timedCommands]
      exact all a (by simp)
    intro j
    rw [← List.append_assoc, reachedSnoc]
    exact (sofar j).trans (idleUnmoved ((sofar k).root.trans idle) command j)

end Runs

def openedAndClosed : List (Action Int) :=
  [.session .call (.open ⟨"file:///p.cpp", ⟨0, 0⟩⟩),
    .session .call (.reply 0 (.ok (.object [("id", .int 1), ("name", .text "main"),
      ("numChildren", .int 2)]))),
    .close .call]

theorem inactiveRestsClosed :
    let c := reached {} .whole (.exact 500) openedAndClosed
    let commands : List (Action Int) := [.session .call (.children (some 0)), .close .call,
      .activate .call placedSymbol true 7, .session .call (.children none)]
    (c.sessions.get .call).root = none ∧ (∀ a ∈ commands, a.commands .call = true) ∧
      Answers {} .whole (.exact 500) (openedAndClosed ++ commands) .call :=
  have idle : ((reached {} .whole (.exact 500) openedAndClosed).sessions.get .call).root = none :=
    rfl
  ⟨idle, by simp [Action.commands], (inactiveRests idle _ (by simp [Action.commands])).2⟩

/- A click on a leaf of a tree that is closed goes there, though a hierarchy without a root is to do
nothing. -/
theorem closedTreeGoes :
    ¬ ∀ (before : List (Action Int)) (k : Kind) (s : Symbol) (hasChildren : Bool) (now : Int),
      ((reached {} .whole (.exact 500) before).sessions.get k).root = none →
        told {} .whole (.exact 500) before (.activate k s hasChildren now) =
          [.activated false] := by
  intro claimed
  have stays := claimed openedAndClosed .call placedSymbol false 0 rfl
  have goes : told {} .whole (.exact 500) openedAndClosed (.activate .call placedSymbol false 0) =
      [.navigated { uri := "file:///s/a.cpp", range := ⟨⟨2, 0⟩, ⟨2, 3⟩⟩ } true,
        .activated true] := rfl
  rw [goes] at stays
  cases stays

end Controller
end SymbolHierarchy
