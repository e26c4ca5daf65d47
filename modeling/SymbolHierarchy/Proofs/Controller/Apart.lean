import SymbolHierarchy.Proofs.Controller.Pairing

/-! Two hierarchies that know nothing of each other. As long as each is only asked about nodes of
its own, leaving out all that is done for the other changes nothing that is seen of it: neither
what is told, nor its nodes, nor what it waits for, nor its clicks. -/
namespace SymbolHierarchy

namespace Action

variable {τ : Type}

/- A hierarchy is asked about a node of the other one. -/
def strays : Action τ → Bool
  | .visit _ _ => true
  | _ => false

def concerns (mine : Symbol → Bool) (k : Kind) : Action τ → Bool
  | .session j _ => j = k
  | .visit j _ => j = k
  | .close j => j = k
  | .activate j _ _ _ => j = k
  | .navigate s => mine s

end Action

structure Seen (τ : Type) where
  told : List Response
  session : Session
  clicks : Clicks τ

namespace Controller

variable {τ : Type} (paths : Paths) (lapse : τ → τ → Lapse)

def watch (mine : Symbol → Bool) (k : Kind) : Controller τ → List (Action τ) → List (Seen τ)
  | _, [] => []
  | c, a :: rest =>
    let (next, told) := c.step paths lapse a
    if a.concerns mine k then
      ⟨told, next.sessions.get k, next.clicks.get k⟩ :: watch mine k next rest
    else watch mine k next rest

structure Alike (k : Kind) (c c' : Controller τ) : Prop where
  session : c.sessions.get k = c'.sessions.get k
  clicks : c.clicks.get k = c'.clicks.get k
  plain : c.visits = []
  plain' : c'.visits = []

variable {c c' : Controller τ} {k : Kind} {a : Action τ} {mine : Symbol → Bool}

theorem homePlain (plain : c.visits = []) (j : Kind) (i : Input) :
    c.inSession j i =
      ({ c with sessions := c.sessions.set j ((c.sessions.get j).step i).1 },
        ((c.sessions.get j).step i).2.map (.session j j)) := by
  have home : c.homeOf j i = j := by
    cases i <;> simp [homeOf, plain]
  rw [inSession, home, stepAtHome]

theorem stepPlain (plain : c.visits = []) (home : a.strays = false) :
    (c.step paths lapse a).1.visits = [] := by
  cases a with
  | visit => cases home
  | _ => exact plain

theorem stepOther (alike : Alike k c c') (home : a.strays = false)
    (other : a.concerns mine k = false) : Alike k (c.step paths lapse a).1 c' := by
  refine ⟨?_, ?_, stepPlain paths lapse alike.plain home, alike.plain'⟩
  · refine Eq.trans ?_ alike.session
    cases a with
    | session j i =>
      have apart : j ≠ k := by simpa [Action.concerns] using other
      simp [step, homePlain alike.plain, PerKind.getSetOther _ _ _ _ apart]
    | visit => cases home
    | close j =>
      have apart : j ≠ k := by simpa [Action.concerns] using other
      simp [step, homePlain alike.plain, PerKind.getSetOther _ _ _ _ apart]
    | activate => rfl
    | navigate => rfl
  · refine Eq.trans ?_ alike.clicks
    rw [stepClicks]
    refine Clicks.turnedQuiet lapse k ?_
    cases a <;> simp_all [Action.concerns, Action.counts]

theorem stepOwnAlike (alike : Alike k c c') (home : a.strays = false)
    (own : a.concerns mine k = true) :
    (c.step paths lapse a).2 = (c'.step paths lapse a).2 ∧
      Alike k (c.step paths lapse a).1 (c'.step paths lapse a).1 := by
  have clicks : (c.step paths lapse a).1.clicks.get k = (c'.step paths lapse a).1.clicks.get k := by
    rw [stepClicks, stepClicks, alike.clicks]
  have plain := stepPlain paths lapse alike.plain home
  have plain' := stepPlain paths lapse alike.plain' home
  suffices both : (c.step paths lapse a).2 = (c'.step paths lapse a).2 ∧
      (c.step paths lapse a).1.sessions.get k = (c'.step paths lapse a).1.sessions.get k from
    ⟨both.1, both.2, clicks, plain, plain'⟩
  cases a with
  | session j i =>
    have same : j = k := by simpa [Action.concerns] using own
    subst same
    simp [step, homePlain alike.plain, homePlain alike.plain', alike.session, PerKind.getSet]
  | visit => cases home
  | close j =>
    have same : j = k := by simpa [Action.concerns] using own
    subst same
    simp [step, homePlain alike.plain, homePlain alike.plain', alike.session, PerKind.getSet]
  | activate j s hasChildren now =>
    have same : j = k := by simpa [Action.concerns] using own
    subst same
    simp [step, alike.clicks, alike.session]
  | navigate s => exact ⟨rfl, alike.session⟩

theorem runAlike (alike : Alike k c c') (mine : Symbol → Bool) (run : List (Action τ))
    (home : ∀ a ∈ run, a.strays = false) :
    watch paths lapse mine k c run =
        watch paths lapse mine k c' (run.filter (Action.concerns mine k)) ∧
      Alike k (c.after paths lapse run)
        (c'.after paths lapse (run.filter (Action.concerns mine k))) := by
  induction run generalizing c c' with
  | nil => exact ⟨rfl, alike⟩
  | cons a rest ih =>
    have first := home a List.mem_cons_self
    have later := fun b mem => home b (List.mem_cons_of_mem a mem)
    cases own : a.concerns mine k with
    | false =>
      have next := stepOther paths lapse alike first own
      simp only [watch, own, Bool.false_eq_true, if_false, List.filter_cons, afterCons]
      exact ih next later
    | true =>
      obtain ⟨told, next⟩ := stepOwnAlike paths lapse alike first own
      obtain ⟨seen, last⟩ := ih next later
      simp only [watch, own, if_true, List.filter_cons, afterCons]
      exact ⟨by rw [told, next.session, next.clicks, seen], last⟩

theorem freshAlike (k : Kind) : Alike k ({} : Controller τ) {} := ⟨rfl, rfl, rfl, rfl⟩

/- Each hierarchy is seen as if the other did not exist, step by step and in the end. -/
theorem kindsApart (mine : Symbol → Bool) (k : Kind) (run : List (Action τ))
    (home : ∀ a ∈ run, a.strays = false) :
    let alone := run.filter (Action.concerns mine k)
    watch paths lapse mine k {} run = watch paths lapse mine k {} alone ∧
      (Controller.after paths lapse {} run).sessions.get k =
        (Controller.after paths lapse {} alone).sessions.get k ∧
      (Controller.after paths lapse {} run).clicks.get k =
        (Controller.after paths lapse {} alone).clicks.get k := by
  obtain ⟨seen, last⟩ := runAlike paths lapse (freshAlike k) mine run home
  exact ⟨seen, last.session, last.clicks⟩

def firstLine : DocumentPosition := ⟨"file:///p.cpp", ⟨0, 0⟩⟩

def mainWire : Json := .object [("id", .int 1), ("name", .text "main"), ("numChildren", .int 2)]

def callsAlone : List (Action Nat) :=
  [.session .call (.open firstLine), .session .call (.reply 0 (.ok mainWire)),
    .activate .call placedSymbol true 100, .session .call (.children (some 0)),
    .activate .call placedSymbol true 300]

def callsAmongTypes : List (Action Nat) :=
  [.session .inheritance (.open firstLine), .session .call (.open firstLine),
    .session .inheritance (.reply 0 (.error (.notStarted "inheritance"))),
    .session .call (.reply 0 (.ok mainWire)), .activate .call placedSymbol true 100,
    .activate .inheritance placedSymbol true 200, .session .call (.children (some 0)),
    .close .inheritance, .navigate placedSymbol, .activate .call placedSymbol true 300]

theorem callsUndisturbed :
    (∀ a ∈ callsAmongTypes, a.strays = false) ∧
      watch {} (fun _ _ => .inTime) (fun _ => false) .call {} callsAmongTypes =
        watch {} (fun _ _ => .inTime) (fun _ => false) .call {} callsAlone := by
  have home : ∀ a ∈ callsAmongTypes, a.strays = false := by
    simp [callsAmongTypes, Action.strays]
  exact ⟨home, (kindsApart {} (fun _ _ => .inTime) (fun _ => false) .call callsAmongTypes home).1⟩

end Controller
end SymbolHierarchy
