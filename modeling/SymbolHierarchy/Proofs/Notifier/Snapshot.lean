import SymbolHierarchy.Notifier.Board

/-! A round of firing. The listeners that stand at its beginning are called in turn, whatever those
called before do to the subscriptions, up to the first that fails. What is left of a round is what
the called listeners' own calls make of the board, in that order. -/
namespace SymbolHierarchy

def Deed.steps : Deed → List BoardStep
  | .nothing | .fail => []
  | .dispose s => [.dispose s]
  | .subscribe l => [.subscribe l l .nothing]

namespace Board

def after (b : Board) (steps : List BoardStep) : Board := steps.foldl (fun b s => (b.step s).1) b

def effects (b : Board) (called : List String) : List BoardStep :=
  called.flatMap fun l => (b.deedOf l).steps

/- Where a round ends: behind the last listener, or at the first that fails, with its failure. -/
inductive Stops (b : Board) : List String → List String → Option Raised → Prop
  | through {called : List String} (calm : ∀ l ∈ called, b.deedOf l ≠ .fail) :
      Stops b called [] none
  | failed {front rest : List String} {l : String} (calm : ∀ m ∈ front, b.deedOf m ≠ .fail)
      (fails : b.deedOf l = .fail) : Stops b (front ++ [l]) rest (some (.runtime l))

variable {b c : Board} {called rest : List String} {l : String} {r : Option Raised}

theorem defineKnown (b : Board) (l m : String) : (b.define l .nothing).deedOf m = b.deedOf m := by
  unfold define
  split
  · rfl
  · -- a listener that was not known yet does nothing, as one that is not known
    simp only [deedOf, List.find?_append]
    cases found : b.deeds.find? fun d => d.1 == m with
    | some d => rfl
    | none => by_cases same : l = m <;> simp [same]

theorem disposeKnown (b : Board) (s m : String) : (b.dispose s).deedOf m = b.deedOf m := by
  unfold dispose
  split <;> rfl

theorem stepsKnown (b : Board) (d : Deed) (m : String) :
    (b.after d.steps).deedOf m = b.deedOf m := by
  cases d with
  | nothing => rfl
  | fail => rfl
  | dispose s => exact disposeKnown b s m
  | subscribe l => exact defineKnown b l m

theorem disposeUnlogged (b : Board) (fired : List String) (s : String) :
    ({ b with fired := fired } : Board).dispose s = { b.dispose s with fired := fired } := by
  unfold dispose
  dsimp only
  split <;> rfl

theorem defineUnlogged (b : Board) (fired : List String) (l : String) (d : Deed) :
    ({ b with fired := fired } : Board).define l d = { b.define l d with fired := fired } := by
  unfold define
  dsimp only
  split <;> rfl

theorem stepsUnlogged (b : Board) (fired : List String) (d : Deed) :
    ({ b with fired := fired } : Board).after d.steps =
      { b.after d.steps with fired := fired } := by
  cases d with
  | nothing => rfl
  | fail => rfl
  | dispose s => exact disposeUnlogged b fired s
  | subscribe l =>
    simp only [after, Deed.steps, List.foldl_cons, List.foldl_nil, step, defineUnlogged]
    rfl

theorem afterAppend (b : Board) (front back : List BoardStep) :
    b.after (front ++ back) = (b.after front).after back := List.foldl_append

theorem effectsUnlogged (b c : Board) (fired called : List String) :
    ({ b with fired := fired } : Board).after (c.effects called) =
      { b.after (c.effects called) with fired := fired } := by
  induction called generalizing b with
  | nil => rfl
  | cons l rest ih =>
    have split : c.effects (l :: rest) = (c.deedOf l).steps ++ c.effects rest := rfl
    rw [split, afterAppend, afterAppend, stepsUnlogged, ih]

theorem callMade (b : Board) (l : String) :
    call l b = ({ b.after (b.deedOf l).steps with fired := b.fired ++ [l] },
      if b.deedOf l = .fail then some (.runtime l) else none) := by
  have same : ({ b with fired := b.fired ++ [l] } : Board).deedOf l = b.deedOf l := rfl
  rw [← stepsUnlogged]
  simp only [call, same]
  cases b.deedOf l <;> rfl

theorem callKnown (b : Board) (l m : String) : (call l b).1.deedOf m = b.deedOf m := by
  rw [callMade]
  exact stepsKnown b (b.deedOf l) m

theorem Stops.next (alike : ∀ m, c.deedOf m = b.deedOf m) (calm : b.deedOf l ≠ .fail)
    (stops : Stops c called rest r) : Stops b (l :: called) rest r := by
  cases stops with
  | through others =>
    exact .through (List.forall_mem_cons.mpr ⟨calm, fun m mem => alike m ▸ others m mem⟩)
  | @failed front _ last others fails =>
    have front' : ∀ m ∈ l :: front, b.deedOf m ≠ .fail :=
      List.forall_mem_cons.mpr ⟨calm, fun m mem => alike m ▸ others m mem⟩
    exact .failed front' (alike last ▸ fails)

theorem eachCalled (listeners : List String) (b : Board) :
    ∃ called rest, listeners = called ++ rest ∧
      Stops b called rest (Notifier.callEach call listeners b).2 ∧
      (Notifier.callEach call listeners b).1 =
        { b.after (b.effects called) with fired := b.fired ++ called } := by
  induction listeners generalizing b with
  | nil => exact ⟨[], [], rfl, .through nofun, by simp [Notifier.callEach, effects, after]⟩
  | cons l later ih =>
    have made := callMade b l
    by_cases fails : b.deedOf l = .fail
    · rw [if_pos fails] at made
      refine ⟨[l], later, rfl, ?_, ?_⟩
      · have stop : Stops b ([] ++ [l]) later (some (.runtime l)) := .failed nofun fails
        simpa only [Notifier.callEach, made, List.nil_append] using stop
      · simp only [Notifier.callEach, made, effects, List.flatMap_cons, List.flatMap_nil,
          List.append_nil]
    · rw [if_neg fails] at made
      have alike : ∀ m, (call l b).1.deedOf m = b.deedOf m := callKnown b l
      obtain ⟨called, rest, split, stops, board⟩ := ih (call l b).1
      have goesOn : Notifier.callEach call (l :: later) b =
          Notifier.callEach call later (call l b).1 := by
        simp only [Notifier.callEach, made]
      have effect : (call l b).1.effects called = b.effects called := by
        simp only [effects, alike]
      refine ⟨l :: called, rest, by rw [split, List.cons_append], ?_, ?_⟩
      · rw [goesOn]
        exact stops.next alike fails
      · rw [goesOn, board, effect, made]
        have parts : b.effects (l :: called) = (b.deedOf l).steps ++ b.effects called := rfl
        dsimp only
        rw [effectsUnlogged, parts, afterAppend, List.append_assoc, List.singleton_append]

/- A round calls the listeners it finds, each as often as it is subscribed, and no other. -/
theorem roundsSnapshot (b : Board) :
    ∃ called rest, b.notifier.listeners = called ++ rest ∧ Stops b called rest (b.step .fire).2 ∧
      (b.step .fire).1 = { b.after (b.effects called) with fired := b.fired ++ called } :=
  eachCalled b.notifier.listeners b

end Board
end SymbolHierarchy
