import SymbolHierarchy.Session.Served
import SymbolHierarchy.Proofs.Session.Moves

/-! A call hierarchy whose queries are answered before anything else is asked. Each operation is
then one equation: where the children of a node are at hand nobody is asked, and otherwise the reply
to one query is what the node holds from then on. -/
namespace SymbolHierarchy

def callersParams (i : Option NodeId) : Json := CallQuery.params { id := i }

namespace Session

structure Prompt (s : Session) : Prop where
  kind : s.kind = .call
  young : ∀ w ∈ s.waiting, w.1 < s.issued

variable {s : Session} {p : Pending} {w : Json} {n : Node}

theorem awaitedPending (young : ∀ w ∈ s.waiting, w.1 < s.issued) :
    (s.issue.await s.issued p).pending? s.issued = some p := by
  have others : (s.waiting.find? fun w => w.1 == s.issued) = none := by
    rw [List.find?_eq_none]
    intro w mem
    simpa using Nat.ne_of_lt (young w mem)
  simp [pending?, await, issue, List.find?_append, others]

theorem awaitedSettle (young : ∀ w ∈ s.waiting, w.1 < s.issued) :
    (s.issue.await s.issued p).settle s.issued = s.issue := by
  have others : (s.waiting.filter fun w => w.1 != s.issued) = s.waiting := by
    rw [List.filter_eq_self]
    intro w mem
    simpa using Nat.ne_of_lt (young w mem)
  simp [settle, await, issue, List.filter_append, others]

theorem decodeRead (kind : s.kind = .call) (read : Node.ofWire .call w = .ok n) :
    s.decode (.ok w) = .ok n := by
  simp [decode, bind, Except.bind, kind, Kind.model, read]

theorem rootArrives (prompt : s.Prompt) (read : Node.ofWire .call w = .ok n) :
    (s.issue.await s.issued (.callRoot s.generation)).step (.reply s.issued (.ok w)) =
      ({ s.issue with forest := s.forest.plant n, root := some s.forest.length },
        [.announce, .finished s.issued (.opened (.ok (some s.forest.length)))]) := by
  have read := decodeRead (s := s.issue) prompt.kind read
  simp only [step, receive, awaitedPending prompt.young, awaitedSettle prompt.young, read, install]
  exact if_pos rfl

theorem decodeRefused {e : Node.Malformed} (kind : s.kind = .call)
    (refused : Node.ofWire .call w = .error e) : s.decode (.ok w) = .error (.malformed e) := by
  simp [decode, bind, Except.bind, kind, Kind.model, refused]

theorem childrenArrive {r : Reply} (young : ∀ w ∈ s.waiting, w.1 < s.issued)
    (read : s.decode r = .ok n) (h : Handle) (under : Option Handle) :
    ∃ es, (s.issue.await s.issued (.expansion h under)).step (.reply s.issued r) =
        ({ s.issue with forest := s.grown h n }, es) ∧
      es.findSome? Served.outcome? =
        some (.listed (.ok (placesFrom s.forest.length (s.newChildren h n)))) := by
  have read : s.issue.decode r = .ok n := read
  simp only [step, receive, awaitedPending young, awaitedSettle young, read]
  refine ⟨_, rfl, ?_⟩
  split <;> rfl

theorem refusalArrives {r : Reply} {e : Fault} (young : ∀ w ∈ s.waiting, w.1 < s.issued)
    (refused : s.decode r = .error e) (h : Handle) (under : Option Handle) :
    (s.issue.await s.issued (.expansion h under)).step (.reply s.issued r) =
      (s.issue, [.finished s.issued (.listed (.error e))]) := by
  have refused : s.issue.decode r = .error e := refused
  simp only [step, receive, awaitedPending young, awaitedSettle young, refused]

theorem callersArrive (prompt : s.Prompt) (read : Node.ofWire .call w = .ok n) (h : Handle) :
    ∃ es, (s.issue.await s.issued (.expansion h s.root)).step (.reply s.issued (.ok w)) =
        ({ s.issue with forest := s.grown h n }, es) ∧
      es.findSome? Served.outcome? =
        some (.listed (.ok (placesFrom s.forest.length n.children))) := by
  have callers : s.newChildren h n = n.children := by simp [newChildren, prompt.kind, adopted]
  rw [← callers]
  exact childrenArrive prompt.young (decodeRead prompt.kind read) h s.root

end Session

namespace Served

variable {σ : Type} {serve : Serving σ} {v : Served σ} {server : σ} {s s' : Session}
  {es : List Effect} {t : Ticket} {i : Input} {r : Reply} {o : Outcome} {params : Json}

theorem performDone (steps : v.session.step i = (s, es)) (done : es.findSome? outcome? = some o) :
    v.perform serve i = (⟨s, v.server⟩, some o) := by
  simp only [perform, steps]
  unfold converse
  simp [done]

theorem performAsked (steps : v.session.step i = (s, [.request t params]))
    (answered : serve params v.server = (r, server)) (arrives : s.step (.reply t r) = (s', es))
    (done : es.findSome? outcome? = some o) : v.perform serve i = (⟨s', server⟩, some o) := by
  simp only [perform, steps]
  unfold converse
  simp only [List.findSome?_singleton, outcome?, request?, answered, arrives]
  unfold converse
  simp [done]

variable {h top : Handle} {c : Cell} {n : Node} {w : Json}

theorem rootOpened (prompt : v.session.Prompt) {p : DocumentPosition}
    (answered : serve (Kind.call.rootParams p) v.server = (.ok w, server))
    (read : Node.ofWire .call w = .ok n) : v.openRoot serve p =
      (⟨{ v.session with
          generation := v.session.generation + 1, issued := v.session.issued + 1,
          forest := v.session.forest.plant n, root := some v.session.forest.length }, server⟩,
        .ok (some v.session.forest.length)) := by
  obtain ⟨⟨kind, forest, root, generation, waiting, issued⟩, server₀⟩ := v
  obtain rfl : kind = .call := prompt.kind
  have arrives := Session.rootArrives (s := ⟨.call, forest, root, generation + 1, waiting, issued⟩)
    ⟨rfl, prompt.young⟩ read
  have opens := performAsked (i := .open p)
    (v := ⟨⟨.call, forest, root, generation, waiting, issued⟩, server₀⟩) rfl answered arrives rfl
  simp only [openRoot, opens]
  rfl

theorem childrenHeld (active : v.session.root = some top) (found : v.session.forest[h]? = some c)
    (real : c.synthetic = false) (full : c.isMaterialized = true) : v.children serve (some h) =
      (⟨{ v.session with issued := v.session.issued + 1 }, v.server⟩, .ok c.children) := by
  have lists : v.session.step (.children (some h)) =
      (v.session.issue, [.finished v.session.issued (.listed (.ok c.children))]) := by
    simp [Session.step, Session.children, Session.issue, active, found, real,
      Session.listChildren, full]
  simp only [children, performDone lists rfl]
  rfl

section Fetch

variable (prompt : v.session.Prompt) (active : v.session.root = some top)
  (found : v.session.forest[h]? = some c) (real : c.synthetic = false)
  (missing : c.isMaterialized = false)
  (answered : serve (callersParams c.symbol.id) v.server = (.ok w, server))
include prompt active found real missing

theorem childrenAsk : v.session.step (.children (some h)) =
    (v.session.issue.await v.session.issued (.expansion h v.session.root),
      [.request v.session.issued (callersParams c.symbol.id)]) := by
  simp [Session.step, Session.children, Session.issue, active, found, real,
    Session.listChildren, missing, prompt.kind, Kind.expansionParams, callersParams]

include answered

theorem childrenFetched (read : Node.ofWire .call w = .ok n) : v.children serve (some h) =
    (⟨{ v.session with issued := v.session.issued + 1, forest := v.session.grown h n }, server⟩,
      .ok (placesFrom v.session.forest.length n.children)) := by
  have asks := childrenAsk prompt active found real missing
  obtain ⟨es, arrives, done⟩ := Session.callersArrive prompt read h
  simp only [children, performAsked asks answered arrives done]
  rfl

theorem childrenRefused {e : Node.Malformed} (refused : Node.ofWire .call w = .error e) :
    v.children serve (some h) =
      (⟨{ v.session with issued := v.session.issued + 1 }, server⟩, .error (.malformed e)) := by
  have asks := childrenAsk prompt active found real missing
  have told := Session.decodeRefused prompt.kind refused
  have arrives := Session.refusalArrives prompt.young told h v.session.root
  simp only [children, performAsked asks answered arrives rfl]
  rfl

end Fetch

end Served
end SymbolHierarchy
