import SymbolHierarchy.Proofs.Controller.Routes
import SymbolHierarchy.Server.Connection

/-! Failures end where they arise. Whatever a connection answers, an opening comes to a result, and
to an error just where its own replies give no root; the event that makes anything fail changes
neither a root nor a click memory, and is not announced. Nor does it change a node, but for a view's
question: that reveals a hidden group before it is refused. -/
namespace SymbolHierarchy

namespace Forest

def Hidden (f : Forest) (h : Handle) : Prop :=
  ∃ c, f[h]? = some c ∧ c.synthetic = true ∧ c.revealed = false

theorem revealSame {f : Forest} {h : Handle} {c : Cell} (found : f[h]? = some c) :
    f.reveal h = f ↔ c.revealed = true := by
  constructor
  · intro same
    have there : (f.reveal h)[h]? = some { c with revealed := true } := by simp [reveal, found]
    rw [same, found] at there
    exact congrArg Cell.revealed (Option.some.inj there)
  · intro seen
    refine List.ext_getElem? fun i => ?_
    by_cases there : h = i
    · subst there
      simp [reveal, found, ← seen]
    · exact revealElsewhere f h i there

theorem shownSame {f : Forest} {h : Handle} : f.shown h = f ↔ ¬ f.Hidden h := by
  unfold shown Hidden
  cases found : f[h]? with
  | none => simp
  | some c => cases group : c.synthetic <;> simp [group, revealSame found]

end Forest

/- What a connection can make of a query, started or not, whatever its client does. -/
def Server.Plan.Answers (plan : Server.Plan) (k : Kind) (r : Reply) : Prop :=
  ∃ (σ : Type) (client : Server.Client σ) (c : Server.Connection) (params : Json) (s : σ),
    r = (c.query client plan k params s).1

theorem answersContained {plan : Server.Plan} {k : Kind} {f : Fault}
    (answers : plan.Answers k (.error f)) : f.isHierarchy = true := by
  obtain ⟨σ, client, c, params, s, told⟩ := answers
  simp only [Server.Connection.query, Server.Connection.request] at told
  split at told
  · cases told
    rfl
  · split at told
    · cases told
    · cases told
      rfl

namespace Answer

theorem containFault {α : Type} {f : Fault} (own : f.isHierarchy = true) :
    contain (.error f : Except Fault α) = .ok (.err f) := by
  cases f with
  | raised => cases own
  | _ => rfl

end Answer

namespace Session

theorem failsContained {s : Session} {r : Reply} {p : Pending} {e : Fault}
    (failed : Fails s r p e) (own : ∀ f, r = .error f → f.isHierarchy = true) :
    e.isHierarchy = true := by
  cases failed with
  | unmaterialized => rfl
  | refused bad =>
    cases r with
    | error f =>
      cases bad
      exact own _ rfl
    | ok v =>
      cases wire : Node.ofWire s.kind.model v with
      | ok n => simp [decode, wire, bind, Except.bind] at bad
      | error m =>
        have same : Fault.malformed m = e := by
          simpa [decode, wire, bind, Except.bind] using bad
        exact same ▸ rfl

theorem firstReply {s : Session} {t : Ticket} {g : Nat} {r : Reply} {n : Node}
    (waits : s.pending? t = some (.derivedRoot g)) (read : s.decode r = .ok n) :
    (s.step (.reply t r)).2 = [.request t (baseParams n.symbol)] := by
  simp [step, receive, waits, show (s.settle t).decode r = .ok n from read]

theorem movesOpened {s i s' es t res} (moves : Moves s i s' es)
    (mem : .finished t (.opened res) ∈ es) : ∃ r, i = .reply t r := by
  cases moves with
  | closes => cases active : s.isActive <;> simp [active] at mem
  | installs => simp_all
  | discards => simp_all
  | fails => simp_all
  | @grows _ _ _ under => cases told : s.root.isSome && s.root == under <;> simp_all
  | _ => simp at mem

end Session

def Action.viewed? {τ : Type} (a : Action τ) : Option Handle :=
  a.input?.bind fun call => call.2.viewed?

namespace Controller
open Session (Completes Failed readAs)

variable {τ : Type} (paths : Paths) (lapse : τ → τ → Lapse)

def nextTicket (c : Controller τ) (k : Kind) : Ticket := (c.sessions.get k).issued

theorem plainHome {c : Controller τ} {k : Kind} {t : Ticket} (plain : (k, t) ∉ c.visits)
    (r : Reply) : c.homeFor (.session k (.reply t r)) = k := by
  simp [homeFor, homeOf, plain]

theorem openedAwaits {c : Controller τ} (sound : c.Sound) (k : Kind) (p : DocumentPosition)
    (between : List (Action τ)) (r : Reply) :
    ∃ s : Session, s.kind = k ∧
      s.pending? (c.nextTicket k) = Session.awaited k
        (some (k.firstWait ((c.sessions.get k).generation + 1)))
        (repliesFor k (c.nextTicket k) between) ∧
      ((c.after paths lapse (.session k (.open p) :: between)).step paths lapse
          (.session k (.reply (c.nextTicket k) r))).2 =
        (s.step (.reply (c.nextTicket k) r)).2.map (.session k k) := by
  have called := (stepSteps paths lapse c (a := .session k (.open p)) rfl).own
  have sound' := stepSound paths lapse sound (.session k (.open p))
  have waits : ((c.step paths lapse (.session k (.open p))).1.sessions.get k).pending?
      (c.nextTicket k) = some (k.firstWait ((c.sessions.get k).generation + 1)) := by
    have first := Session.openPending (sound.young k) p
    rw [sound.kinds k] at first
    exact (Session.barePending called _).trans first
  have issued : c.nextTicket k <
      ((c.step paths lapse (.session k (.open p))).1.sessions.get k).issued := by
    rw [(Session.bareFields called).2.2.2, Session.movesIssued (Session.stepMoves _ _)]
    exact Nat.lt_succ_self _
  have plain : (k, c.nextTicket k) ∉ (c.step paths lapse (.session k (.open p))).1.visits := by
    intro mem
    rcases stepVisits paths lapse c (.session k (.open p)) mem with old | ⟨⟨h, no⟩, _⟩
    · exact Nat.lt_irrefl _ (sound.visits k _ old)
    · cases no
  have home := plainHome (afterUnvisited paths lapse issued plain between) r
  rw [afterCons]
  refine ⟨_, (afterSound paths lapse sound' between).kinds k, ?_, ?_⟩
  · rw [afterAwaited paths lapse sound' issued between, waits]
  · have told := (stepSteps paths lapse
      ((c.step paths lapse (.session k (.open p))).1.after paths lapse between)
      (a := .session k (.reply (c.nextTicket k) r)) rfl).told
    rw [home] at told
    exact told

/- What an action leaves as it is: click memories, roots, and all nodes but one that a view asks
about, which it may reveal. Nothing is announced. -/
structure Keeps (a : Action τ) (c c' : Controller τ) (told : List Response) : Prop where
  clicks : c'.clicks = c.clicks
  silent : ∀ j home, Response.session j home .announce ∉ told
  roots : ∀ j, (c'.sessions.get j).root = (c.sessions.get j).root
  nodes : ∀ j, (c'.sessions.get j).forest =
    if c.homeFor a = j then a.viewed?.elim (c.sessions.get j).forest (c.sessions.get j).forest.shown
    else (c.sessions.get j).forest

def Uncovers (c : Controller τ) (a : Action τ) : Prop :=
  ∃ h, a.viewed? = some h ∧ (c.sessions.get (c.homeFor a)).forest.Hidden h

/- Failures are contained. An opening is named by the ticket that its call takes; it asks its
server once or twice, and its last reply brings its result. The event that makes anything fail
leaves click memories and roots as they are, and an opening, an expansion or a reply every node as
well. So does a call that is refused at once, but where a view asks about a hidden group: that group
is revealed. -/
structure Contained (paths : Paths) (lapse : τ → τ → Lapse) (plan : Server.Plan) : Prop where
  asked : ∀ before k p,
    let c := Controller.after paths lapse ({} : Controller τ) before
    (c.step paths lapse (.session k (.open p))).2 =
      [.session k k (.request (c.nextTicket k) (k.rootParams p))]
  again : ∀ before p between r n,
    let c := Controller.after paths lapse ({} : Controller τ) before
    repliesFor .inheritance (c.nextTicket .inheritance) between = [] →
    readAs .inheritance r = some n →
    ((c.after paths lapse (.session .inheritance (.open p) :: between)).step paths lapse
        (.session .inheritance (.reply (c.nextTicket .inheritance) r))).2 =
      [.session .inheritance .inheritance
        (.request (c.nextTicket .inheritance) (baseParams n.symbol))]
  returned : ∀ before k p between r,
    let c := Controller.after paths lapse ({} : Controller τ) before
    let replies := repliesFor k (c.nextTicket k) between ++ [r]
    Completes k replies → (∀ r' ∈ replies, plan.Answers k r') →
    ∃ res a, (∀ res', Response.session k k (.finished (c.nextTicket k) (.opened res')) ∈
        ((c.after paths lapse (.session k (.open p) :: between)).step paths lapse
          (.session k (.reply (c.nextTicket k) r))).2 ↔ res' = res) ∧
      Answer.contain res = .ok a ∧ (a.isErr = true ↔ Failed k replies)
  only : ∀ (c : Controller τ) a k home t res,
    Response.session k home (.finished t (.opened res)) ∈ (c.step paths lapse a).2 →
    ∃ r, a = .session k (.reply t r)
  kept : ∀ (c : Controller τ) a k home t o,
    Response.session k home (.finished t o) ∈ (c.step paths lapse a).2 → o.fails = true →
    Keeps a c (c.step paths lapse a).1 (c.step paths lapse a).2
  still : ∀ (c : Controller τ) a k home t o,
    Response.session k home (.finished t o) ∈ (c.step paths lapse a).2 → o.fails = true →
    a.viewed? = none →
    ∀ j, ((c.step paths lapse a).1.sessions.get j).forest = (c.sessions.get j).forest
  atOnce : ∀ before a k i h f home,
    let c := Controller.after paths lapse ({} : Controller τ) before
    let called := c.step paths lapse a
    let ended := called.1.step paths lapse (.session k (.reply (c.nextTicket k) (.error f)))
    a.input? = some (k, i) → i.listed? = some h →
    Response.session k home (.finished (c.nextTicket k) (.listed (.error f))) ∈ ended.2 →
    Keeps a c ended.1 (called.2 ++ ended.2)
  untouched : ∀ (c : Controller τ) a c' told, Keeps a c c' told →
    ((∀ j, (c'.sessions.get j).forest = (c.sessions.get j).forest) ↔ ¬ c.Uncovers a)

section Contained

variable {paths} {lapse} {plan : Server.Plan}

theorem openReturns {c : Controller τ} (sound : c.Sound) (k : Kind) (p : DocumentPosition)
    (between : List (Action τ)) (r : Reply)
    (completes : Completes k (repliesFor k (c.nextTicket k) between ++ [r]))
    (answers : ∀ r' ∈ repliesFor k (c.nextTicket k) between ++ [r], plan.Answers k r') :
    ∃ res a, (∀ res', Response.session k k (.finished (c.nextTicket k) (.opened res')) ∈
        ((c.after paths lapse (.session k (.open p) :: between)).step paths lapse
          (.session k (.reply (c.nextTicket k) r))).2 ↔ res' = res) ∧
      Answer.contain res = .ok a ∧
      (a.isErr = true ↔ Failed k (repliesFor k (c.nextTicket k) between ++ [r])) := by
  obtain ⟨s, kind, waits, told⟩ := openedAwaits paths lapse sound k p between r
  obtain ⟨q, awaits, opening, last, fails⟩ :=
    Session.completesFailed ((c.sessions.get k).generation + 1) completes
  rw [awaits] at waits
  obtain ⟨res, once, ends⟩ :=
    Session.openingEnds (Session.stepMoves s _) waits opening (kind ▸ last)
  have alone : ∀ res', Response.session k k (.finished (c.nextTicket k) (.opened res')) ∈
      (s.step (.reply (c.nextTicket k) r)).2.map (.session k k) ↔ res' = res := by
    intro res'
    rw [← once res']
    simp
  rw [told]
  rcases ends with ⟨e, failed, rfl⟩ | ⟨g, n, h, built, rfl⟩
  · have own : e.isHierarchy = true := by
      refine Session.failsContained failed ?_
      rintro f rfl
      exact answersContained (answers _ (by simp))
    refine ⟨_, .err e, alone, Answer.containFault own, ?_⟩
    exact ⟨fun _ => (fails s kind).mp ⟨e, failed⟩, fun _ => rfl⟩
  · refine ⟨_, .ok h, alone, rfl, nofun, fun failed => ?_⟩
    obtain ⟨e, bad⟩ := (fails s kind).mpr failed
    exact (Session.failsNotBuilds bad built).elim

theorem openAsksAgain {c : Controller τ} (sound : c.Sound) (p : DocumentPosition)
    (between : List (Action τ)) {r : Reply} {n : Node}
    (silent : repliesFor .inheritance (c.nextTicket .inheritance) between = [])
    (read : readAs .inheritance r = some n) :
    ((c.after paths lapse (.session .inheritance (.open p) :: between)).step paths lapse
        (.session .inheritance (.reply (c.nextTicket .inheritance) r))).2 =
      [.session .inheritance .inheritance
        (.request (c.nextTicket .inheritance) (baseParams n.symbol))] := by
  obtain ⟨s, kind, waits, told⟩ := openedAwaits paths lapse sound .inheritance p between r
  rw [silent] at waits
  rw [told, Session.firstReply waits (Session.readDecodes (kind ▸ read))]
  rfl

theorem openAsks {c : Controller τ} (sound : c.Sound) (k : Kind) (p : DocumentPosition) :
    (c.step paths lapse (.session k (.open p))).2 =
      [.session k k (.request (c.nextTicket k) (k.rootParams p))] := by
  have told := (stepSteps paths lapse c (a := .session k (.open p)) rfl).told
  rw [told]
  change List.map _ [Effect.request _ ((c.sessions.get k).kind.rootParams p)] = _
  rw [sound.kinds k]
  rfl

theorem openedByReply {c : Controller τ} {a : Action τ} {k home : Kind} {t : Ticket}
    {res : Except Fault (Option Handle)}
    (mem : Response.session k home (.finished t (.opened res)) ∈ (c.step paths lapse a).2) :
    ∃ r, a = .session k (.reply t r) := by
  cases input : a.input? with
  | none => exact absurd mem ((stepRests paths lapse c input).2 k home _)
  | some call =>
    obtain ⟨j, i⟩ := call
    rw [(stepSteps paths lapse c input).told] at mem
    obtain ⟨e, inside, same⟩ := List.mem_map.mp mem
    cases same
    obtain ⟨r, rfl⟩ := Session.movesOpened (Session.stepMoves _ i) inside
    cases a with
    | session => cases input; exact ⟨r, rfl⟩
    | _ => cases input

theorem stepsKeep {c : Controller τ} {a : Action τ} {k : Kind} {i : Input}
    (input : a.input? = some (k, i))
    (leaves : (c.drawn k (c.homeFor a)).Leaves i ((c.drawn k (c.homeFor a)).step i).1
      ((c.drawn k (c.homeFor a)).step i).2) :
    Keeps a c (c.step paths lapse a).1 (c.step paths lapse a).2 := by
  have steps := stepSteps paths lapse c input
  refine ⟨?_, ?_, ?_, ?_⟩
  · cases a with
    | close =>
      cases input
      exact absurd rfl leaves.stays
    | session => rfl
    | visit => rfl
    | activate => cases input
    | navigate => cases input
  · rw [steps.told]
    intro j home told
    obtain ⟨e, here, same⟩ := List.mem_map.mp told
    cases same
    exact leaves.quiet here
  · intro j
    by_cases own : k = j
    · subst own
      exact (Session.bareFields steps.own).2.1.trans leaves.root
    · exact (Session.bareFields (steps.other j own)).2.1
  · intro j
    have viewed : a.viewed? = i.viewed? := by rw [Action.viewed?, input]; rfl
    by_cases there : c.homeFor a = j
    · subst there
      rw [if_pos rfl, viewed]
      exact steps.nodes.trans leaves.forest
    · rw [if_neg there]
      exact steps.away j there

theorem failureKeeps {c : Controller τ} {a : Action τ} {k home : Kind} {t : Ticket} {o : Outcome}
    (mem : Response.session k home (.finished t o) ∈ (c.step paths lapse a).2)
    (fails : o.fails = true) : Keeps a c (c.step paths lapse a).1 (c.step paths lapse a).2 := by
  cases input : a.input? with
  | none => exact absurd mem ((stepRests paths lapse c input).2 k home _)
  | some call =>
    obtain ⟨j, i⟩ := call
    rw [(stepSteps paths lapse c input).told] at mem
    obtain ⟨e, inside, same⟩ := List.mem_map.mp mem
    cases same
    exact stepsKeep input (Session.movesFailed (Session.stepMoves _ i) inside fails)

theorem refusalKeeps {c : Controller τ} (sound : c.Sound) {a : Action τ} {k home : Kind}
    {i : Input} {h : Handle} {f : Fault} (input : a.input? = some (k, i))
    (lists : i.listed? = some h)
    (mem : Response.session k home (.finished (c.nextTicket k) (.listed (.error f))) ∈
      ((c.step paths lapse a).1.step paths lapse
        (.session k (.reply (c.nextTicket k) (.error f)))).2) :
    Keeps a c
      ((c.step paths lapse a).1.step paths lapse
        (.session k (.reply (c.nextTicket k) (.error f)))).1
      ((c.step paths lapse a).2 ++ ((c.step paths lapse a).1.step paths lapse
        (.session k (.reply (c.nextTicket k) (.error f)))).2) := by
  have steps := stepSteps paths lapse c input
  have ended := failureKeeps mem rfl
  generalize called : (c.step paths lapse a).1 = c' at *
  -- a reply that ends the call finds it waiting, and so it has sent its request and no more
  have waits : ∃ p, (c'.sessions.get k).pending? (c.nextTicket k) = some p := by
    have replied := stepSteps paths lapse c'
      (a := .session k (.reply (c.nextTicket k) (.error f))) rfl
    rw [replied.told] at mem
    obtain ⟨e, inside, same⟩ := List.mem_map.mp mem
    cases same
    have told : ∃ p, (c'.drawn k _).pending? (c.nextTicket k) = some p :=
      Session.replyWaits (Session.stepMoves _ _) inside
    exact told
  obtain ⟨p, waits⟩ := waits
  rw [Session.barePending steps.own] at waits
  have asked : Keeps a c c' (c.step paths lapse a).2 := called ▸
    stepsKeep input (Session.callWaits (Session.stepMoves (c.drawn k (c.homeFor a)) i)
      (sound.young k) lists waits)
  refine ⟨ended.clicks.trans asked.clicks, ?_, fun j => (ended.roots j).trans (asked.roots j), ?_⟩
  · intro j home told
    rcases List.mem_append.mp told with first | second
    · exact asked.silent j home first
    · exact ended.silent j home second
  · intro j
    rw [← asked.nodes j]
    exact (ended.nodes j).trans (ite_self _)

theorem keptUntouched {a : Action τ} {c c' : Controller τ} {told : List Response}
    (keeps : Keeps a c c' told) :
    (∀ j, (c'.sessions.get j).forest = (c.sessions.get j).forest) ↔ ¬ c.Uncovers a := by
  have home := keeps.nodes (c.homeFor a)
  rw [if_pos rfl] at home
  cases viewed : a.viewed? with
  | none =>
    refine iff_of_true (fun j => ?_) ?_
    · rw [keeps.nodes j, viewed]
      exact ite_self _
    · rintro ⟨h, asks, _⟩
      cases viewed.symm.trans asks
  | some h =>
    have hides : c.Uncovers a ↔ (c.sessions.get (c.homeFor a)).forest.Hidden h := by
      simp [Uncovers, viewed]
    rw [hides, ← Forest.shownSame]
    constructor
    · intro same
      rw [viewed] at home
      exact home.symm.trans (same (c.homeFor a))
    · intro same j
      by_cases there : c.homeFor a = j
      · rw [keeps.nodes j, if_pos there, viewed, ← there]
        exact same
      · rw [keeps.nodes j, if_neg there]

end Contained

def markedGroup : List (Action Nat) :=
  [.session .call (.open ⟨"file:///p.cpp", ⟨0, 0⟩⟩),
    .session .call (.reply 0 (.ok (.object [("id", .int 1), ("name", .text "f"),
      ("numChildren", .int 1), ("synthetic", .bool true)])))]

/- The second request finds the server gone: the opening ends in that error. -/
example :
    ((({} : Controller Nat).after {} (fun _ _ => .late)
        [.session .inheritance (.open ⟨"file:///p.cpp", ⟨0, 0⟩⟩),
          .session .inheritance (.reply 0 (.ok (.object [("id", .int 1), ("name", .text "A"),
            ("numChildren", .int 0)])))]).step {} (fun _ _ => .late)
        (.session .inheritance (.reply 0 (.error (.notStarted "inheritance"))))).2 =
      [.session .inheritance .inheritance
        (.finished 0 (.opened (.error (.notStarted "inheritance"))))] := rfl

end Controller
end SymbolHierarchy
