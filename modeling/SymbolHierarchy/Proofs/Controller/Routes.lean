import SymbolHierarchy.Controller.Basic
import SymbolHierarchy.Proofs.Session.Endings

/-! What one action of a controller makes of its two sessions, and what runs of it make. Most
actions are a step of one session, in its own forest or, on a visit, in that of the other; all
others leave both sessions alone. What is waited for is settled by its own replies only. -/
namespace SymbolHierarchy

def Session.bare (s : Session) : Session := { s with forest := [] }

theorem Session.bareFields {s s' : Session} (same : s.bare = s'.bare) :
    s.kind = s'.kind ∧ s.root = s'.root ∧ s.waiting = s'.waiting ∧ s.issued = s'.issued := by
  simp only [bare, mk.injEq] at same
  obtain ⟨kind, _, root, _, waiting, issued⟩ := same
  exact ⟨kind, root, waiting, issued⟩

theorem Session.barePending {s s' : Session} (same : s.bare = s'.bare) (t : Ticket) :
    s.pending? t = s'.pending? t := by
  simp only [pending?, (bareFields same).2.2.1]

def Action.input? {τ : Type} : Action τ → Option (Kind × Input)
  | .session k i => some (k, i)
  | .visit k h => some (k, .children (some h))
  | .close k => some (k, .close)
  | _ => none

def Action.replyTo? {τ : Type} (k : Kind) (t : Ticket) : Action τ → Option Reply
  | .session j (.reply u r) => if j = k ∧ u = t then some r else none
  | _ => none

def repliesFor {τ : Type} (k : Kind) (t : Ticket) (actions : List (Action τ)) : List Reply :=
  actions.filterMap (Action.replyTo? k t)

namespace Controller
open Session (bareFields barePending)

variable {τ : Type} (paths : Paths) (lapse : τ → τ → Lapse)

def drawn (c : Controller τ) (k home : Kind) : Session :=
  { c.sessions.get k with forest := (c.sessions.get home).forest }

def homeFor (c : Controller τ) : Action τ → Kind
  | .session k i => c.homeOf k i
  | .visit k _ => k.other
  | .close k => c.homeOf k .close
  | .activate k _ _ _ => k
  | .navigate _ => .call

/- The two sessions step as one of them does in the forest of `home`. -/
structure Steps (c c' : Controller τ) (k home : Kind) (i : Input) (rs : List Response) : Prop where
  own : (c'.sessions.get k).bare = ((c.drawn k home).step i).1.bare
  other : ∀ j, k ≠ j → (c'.sessions.get j).bare = (c.sessions.get j).bare
  nodes : (c'.sessions.get home).forest = ((c.drawn k home).step i).1.forest
  away : ∀ j, home ≠ j → (c'.sessions.get j).forest = (c.sessions.get j).forest
  told : rs = ((c.drawn k home).step i).2.map (.session k home)

theorem stepInSteps (c : Controller τ) (k home : Kind) (i : Input) :
    Steps c (c.stepIn k home i).1 k home i (c.stepIn k home i).2 := by
  refine ⟨?_, ?_, ?_, ?_, rfl⟩
  · cases k <;> cases home <;> rfl
  · intro j apart
    cases k <;> cases home <;> cases j <;> first | rfl | exact absurd rfl apart
  · cases k <;> cases home <;> rfl
  · intro j apart
    cases k <;> cases home <;> cases j <;> first | rfl | exact absurd rfl apart

theorem stepSteps (c : Controller τ) {a : Action τ} {k : Kind} {i : Input}
    (input : a.input? = some (k, i)) :
    Steps c (c.step paths lapse a).1 k (c.homeFor a) i (c.step paths lapse a).2 := by
  cases a with
  | session k i =>
    cases input
    exact stepInSteps c k _ i
  | visit k h =>
    cases input
    have steps := stepInSteps
      { c with visits := (k, (c.sessions.get k).issued) :: c.visits } k k.other (.children (some h))
    exact ⟨steps.own, steps.other, steps.nodes, steps.away, steps.told⟩
  | close k =>
    cases input
    have steps := stepInSteps c k (c.homeOf k .close) .close
    exact ⟨steps.own, steps.other, steps.nodes, steps.away, steps.told⟩
  | activate => cases input
  | navigate => cases input

theorem navigateSilent (paths : Paths) (s : Symbol) {k home : Kind} {e : Effect} :
    Response.session k home e ∉ navigate paths s := by
  cases place : s.location <;> simp [navigate, place]

theorem stepRests (c : Controller τ) {a : Action τ} (input : a.input? = none) :
    (c.step paths lapse a).1.sessions = c.sessions ∧
      ∀ k home e, Response.session k home e ∉ (c.step paths lapse a).2 := by
  cases a with
  | activate k s hasChildren now =>
    refine ⟨rfl, ?_⟩
    intro j home e
    simp only [step]
    cases ((c.clicks.get k).activate lapse s hasChildren now).2 with
    | error cause => simp
    | ok b => cases b <;> simp [navigateSilent]
  | navigate s => exact ⟨rfl, fun _ _ _ => navigateSilent paths s⟩
  | session => cases input
  | visit => cases input
  | close => cases input

theorem stepVisits (c : Controller τ) (a : Action τ) {k : Kind} {t : Ticket}
    (mem : (k, t) ∈ (c.step paths lapse a).1.visits) :
    (k, t) ∈ c.visits ∨ (∃ h, a = .visit k h) ∧ t = (c.sessions.get k).issued := by
  cases a with
  | visit j h =>
    rcases List.mem_cons.mp mem with new | old
    · cases new
      exact .inr ⟨⟨h, rfl⟩, rfl⟩
    · exact .inl old
  | _ => exact .inl mem

structure Sound (c : Controller τ) : Prop where
  kinds : ∀ k, (c.sessions.get k).kind = k
  young : ∀ k, ∀ w ∈ (c.sessions.get k).waiting, w.1 < (c.sessions.get k).issued
  visits : ∀ k t, (k, t) ∈ c.visits → t < (c.sessions.get k).issued

section Step

variable {c : Controller τ}

theorem stepOwn (c : Controller τ) (a : Action τ) (k : Kind) :
    (∃ home i, a.input? = some (k, i) ∧ ((c.step paths lapse a).1.sessions.get k).bare =
        ((c.drawn k home).step i).1.bare) ∨
      (∀ i, a.input? ≠ some (k, i)) ∧
        ((c.step paths lapse a).1.sessions.get k).bare = (c.sessions.get k).bare := by
  cases input : a.input? with
  | none =>
    refine .inr ⟨nofun, ?_⟩
    rw [(stepRests paths lapse c input).1]
  | some call =>
    obtain ⟨j, i⟩ := call
    have steps := stepSteps paths lapse c input
    by_cases same : j = k
    · subst same
      exact .inl ⟨_, i, rfl, steps.own⟩
    · refine .inr ⟨?_, steps.other k same⟩
      rintro i' told
      cases told
      exact same rfl

theorem stepIssued (c : Controller τ) (a : Action τ) (k : Kind) :
    (c.sessions.get k).issued ≤ ((c.step paths lapse a).1.sessions.get k).issued := by
  rcases stepOwn paths lapse c a k with ⟨home, i, _, same⟩ | ⟨_, same⟩
  · rw [(bareFields same).2.2.2]
    exact (Session.movesNoEarlier (Session.stepMoves (c.drawn k home) i)).1
  · exact Nat.le_of_eq (bareFields same).2.2.2.symm

theorem stepSound (sound : c.Sound) (a : Action τ) : (c.step paths lapse a).1.Sound := by
  refine ⟨?_, ?_, ?_⟩
  · intro k
    rcases stepOwn paths lapse c a k with ⟨home, i, _, same⟩ | ⟨_, same⟩
    · rw [(bareFields same).1, Session.movesKind (Session.stepMoves (c.drawn k home) i)]
      exact sound.kinds k
    · rw [(bareFields same).1]
      exact sound.kinds k
  · intro k
    rcases stepOwn paths lapse c a k with ⟨home, i, _, same⟩ | ⟨_, same⟩
    · rw [(bareFields same).2.2.1, (bareFields same).2.2.2]
      exact Session.movesYoung (Session.stepMoves (c.drawn k home) i) (sound.young k)
    · rw [(bareFields same).2.2.1, (bareFields same).2.2.2]
      exact sound.young k
  · intro k t mem
    rcases stepVisits paths lapse c a mem with old | ⟨⟨h, rfl⟩, rfl⟩
    · exact Nat.lt_of_lt_of_le (sound.visits k t old) (stepIssued paths lapse c a k)
    · have steps := stepSteps paths lapse c (a := .visit k h) rfl
      rw [(bareFields steps.own).2.2.2, Session.movesIssued (Session.stepMoves _ _)]
      exact Nat.lt_succ_self _

theorem stepUnvisited {a : Action τ} {k : Kind} {t : Ticket} (issued : t < (c.sessions.get k).issued)
    (plain : (k, t) ∉ c.visits) : (k, t) ∉ (c.step paths lapse a).1.visits := by
  intro mem
  rcases stepVisits paths lapse c a mem with old | ⟨_, rfl⟩
  · exact plain old
  · exact Nat.lt_irrefl _ issued

/- What a ticket waits for is settled by the replies to it, whatever else is done. -/
theorem stepAwaited (sound : c.Sound) (a : Action τ) {k : Kind} {t : Ticket}
    (issued : t < (c.sessions.get k).issued) :
    ((c.step paths lapse a).1.sessions.get k).pending? t =
      Session.awaited k ((c.sessions.get k).pending? t) (a.replyTo? k t).toList := by
  have kind : ∀ home, (c.drawn k home).kind = k := fun _ => sound.kinds k
  rcases stepOwn paths lapse c a k with ⟨home, i, input, same⟩ | ⟨no, same⟩
  · rw [barePending same]
    have moves := Session.stepMoves (c.drawn k home) i
    by_cases answered : ∃ r, i = .reply t r
    · obtain ⟨r, rfl⟩ := answered
      have told : a.replyTo? k t = some r := by
        cases a <;> simp_all [Action.input?, Action.replyTo?]
      rw [told, Session.replyPending moves, kind]
      rfl
    · have silent : a.replyTo? k t = none := by
        cases a with
        | session j i' =>
          cases input
          cases i with
          | reply u r => simp_all [Action.replyTo?]
          | _ => rfl
        | _ => rfl
      rw [silent, Session.movesPending moves issued fun r told => answered ⟨r, told⟩]
      rfl
  · have silent : a.replyTo? k t = none := by
      cases a with
      | session j i =>
        have apart : j ≠ k := by
          rintro rfl
          exact no i rfl
        cases i with
        | reply u r => simp [Action.replyTo?, apart]
        | _ => rfl
      | _ => rfl
    rw [barePending same, silent]
    rfl

end Step

section Run

def after (c : Controller τ) (actions : List (Action τ)) : Controller τ :=
  actions.foldl (fun c a => (c.step paths lapse a).1) c

theorem afterCons (c : Controller τ) (a : Action τ) (rest : List (Action τ)) :
    c.after paths lapse (a :: rest) = (c.step paths lapse a).1.after paths lapse rest := rfl

theorem afterSound {c : Controller τ} (sound : c.Sound) (actions : List (Action τ)) :
    (c.after paths lapse actions).Sound := by
  induction actions generalizing c with
  | nil => exact sound
  | cons a rest ih => exact ih (stepSound paths lapse sound a)

theorem freshSound : ({} : Controller τ).Sound where
  kinds k := by cases k <;> rfl
  young k := by cases k <;> simp [PerKind.get]
  visits := by simp

theorem afterAwaited {c : Controller τ} (sound : c.Sound) {k : Kind} {t : Ticket}
    (issued : t < (c.sessions.get k).issued) (actions : List (Action τ)) :
    ((c.after paths lapse actions).sessions.get k).pending? t =
      Session.awaited k ((c.sessions.get k).pending? t) (repliesFor k t actions) := by
  induction actions generalizing c with
  | nil => rfl
  | cons a rest ih =>
    have later := Nat.lt_of_lt_of_le issued (stepIssued paths lapse c a k)
    rw [afterCons, ih (stepSound paths lapse sound a) later, stepAwaited paths lapse sound a issued]
    cases told : a.replyTo? k t <;> simp [repliesFor, told, Session.awaited]

theorem afterUnvisited {c : Controller τ} {k : Kind} {t : Ticket}
    (issued : t < (c.sessions.get k).issued) (plain : (k, t) ∉ c.visits)
    (actions : List (Action τ)) : (k, t) ∉ (c.after paths lapse actions).visits := by
  induction actions generalizing c with
  | nil => exact plain
  | cons a rest ih =>
    have later := Nat.lt_of_lt_of_le issued (stepIssued paths lapse c a k)
    exact ih later (stepUnvisited paths lapse issued plain)

end Run

end Controller
end SymbolHierarchy
