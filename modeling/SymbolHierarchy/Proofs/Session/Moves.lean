import SymbolHierarchy.Session.Basic
import SymbolHierarchy.Proofs.Node.Tree

/-! What one step of a session can do, case by case, and what a whole run keeps.
Every invariant is shown once per case here and holds after every run from then on. -/
namespace SymbolHierarchy

def Forest.shown (f : Forest) (h : Handle) : Forest :=
  match f[h]? with
  | some c => if c.synthetic then f.reveal h else f
  | none => f

def Kind.firstWait (k : Kind) (generation : Nat) : Pending :=
  match k with
  | .call => .callRoot generation
  | .inheritance => .derivedRoot generation

def Pending.failure (p : Pending) (e : Fault) : Outcome :=
  match p with
  | .expansion _ _ => .listed (.error e)
  | _ => .opened (.error e)

def Effect.installed? : Effect → Option (Ticket × Handle)
  | .finished t (.opened (.ok (some h))) => some (t, h)
  | _ => none

def installed (es : List Effect) : List (Ticket × Handle) := es.filterMap Effect.installed?

theorem announceQuiet (told : Bool) : installed (if told then [.announce] else []) = [] := by
  cases told <;> rfl

theorem failureQuiet (t : Ticket) (p : Pending) (e : Fault) :
    installed [.finished t (p.failure e)] = [] := by
  cases p <;> rfl

theorem listedQuiet (told : Bool) (t : Ticket) (r : Except Fault (List Handle)) :
    installed ((if told then [.announce] else []) ++ [.finished t (.listed r)]) = [] := by
  cases told <;> rfl

namespace Session

def directionOf (s : Session) (h : Handle) : Bool :=
  (s.forest[h]?.map fun c => c.facet.wantsDerived).getD true

def newChildren (s : Session) (h : Handle) (n : Node) : List Node :=
  adopted s.kind (s.directionOf h) n.children

def grown (s : Session) (h : Handle) (n : Node) : Forest :=
  (s.forest.plantAll (s.newChildren h n)).adopt h n.numChildren
    (placesFrom s.forest.length (s.newChildren h n))

theorem decodeWire {s : Session} {r n} (read : s.decode r = .ok n) :
    ∃ v, r = .ok v ∧ Node.ofWire s.kind.model v = .ok n := by
  cases r with
  | error e => simp [decode, bind, Except.bind] at read
  | ok v =>
    refine ⟨v, rfl, ?_⟩
    simp only [decode, bind, Except.bind] at read
    cases wire : Node.ofWire s.kind.model v with
    | error e => simp [wire] at read
    | ok m => simpa [wire] using read

theorem pendingWaits {s : Session} {t p} (waits : s.pending? t = some p) :
    (t, p) ∈ s.waiting := by
  obtain ⟨w, found, rfl⟩ := Option.map_eq_some_iff.mp waits
  have ticket : w.1 = t := by simpa using List.find?_some found
  exact ticket ▸ List.mem_of_find?_eq_some found

inductive Asks (s : Session) : Input → Handle → Forest → Prop
  | expanding (h : Handle) : Asks s (.expand h) h s.forest
  | viewing {r : Handle} (h : Handle) (active : s.root = some r) :
      Asks s (.children (some h)) h (s.forest.shown h)

inductive Builds (s : Session) (r : Reply) : Pending → Nat → Node → Prop
  | call {g n} (read : s.decode r = .ok n) : Builds s r (.callRoot g) g n
  | merged {g entry b n} (read : s.decode r = .ok b) (joined : entry.merge b = .ok n) :
      Builds s r (.baseRoot g entry) g n

inductive Fails (s : Session) (r : Reply) : Pending → Fault → Prop
  | refused {p e} (bad : s.decode r = .error e) : Fails s r p e
  | unmaterialized {g entry b name count} (read : s.decode r = .ok b)
      (apart : entry.merge b = .error (name, count)) :
      Fails s r (.baseRoot g entry) (.malformed (.unmaterialized name count))

inductive Moves (s : Session) : Input → Session → List Effect → Prop
  | starts (p : DocumentPosition) :
      Moves s (.open p)
        { s with
          generation := s.generation + 1, issued := s.issued + 1,
          waiting := s.waiting ++ [(s.issued, s.kind.firstWait (s.generation + 1))] }
        [.request s.issued (s.kind.rootParams p)]
  | closes :
      Moves s .close { s with generation := s.generation + 1, root := none }
        (if s.isActive then [.announce] else [])
  | idle {node} (inactive : s.root = none) :
      Moves s (.children node) { s with issued := s.issued + 1 }
        [.finished s.issued (.listed (.ok []))]
  | listsRoot {r} (active : s.root = some r) :
      Moves s (.children none) { s with issued := s.issued + 1 }
        [.finished s.issued (.listed (.ok [r]))]
  | absent {i h f} (asks : Asks s i h f) (missing : f[h]? = none) :
      Moves s i { s with forest := f, issued := s.issued + 1 } []
  | atHand {i h f c} (asks : Asks s i h f) (found : f[h]? = some c)
      (full : c.isMaterialized = true) :
      Moves s i { s with forest := f, issued := s.issued + 1 }
        [.finished s.issued (.listed (.ok c.children))]
  | fetches {i h f c params} (asks : Asks s i h f) (found : f[h]? = some c)
      (missing : c.isMaterialized = false)
      (known : s.kind.expansionParams c.symbol c.facet = .ok params) :
      Moves s i
        { s with
          forest := f, issued := s.issued + 1,
          waiting := s.waiting ++ [(s.issued, .expansion h s.root)] }
        [.request s.issued params]
  | refuses {i h f c cause} (asks : Asks s i h f) (found : f[h]? = some c)
      (unknown : s.kind.expansionParams c.symbol c.facet = .error cause) :
      Moves s i { s with forest := f, issued := s.issued + 1 }
        [.finished s.issued (.listed (.error (.raised cause)))]
  | unexpected {t r} (stray : s.pending? t = none) : Moves s (.reply t r) s []
  | enters {t r g n} (waits : s.pending? t = some (.derivedRoot g)) (read : s.decode r = .ok n) :
      Moves s (.reply t r) ((s.settle t).await t (.baseRoot g (n.withDirection true)))
        [.request t (baseParams n.symbol)]
  | installs {t r p n} (waits : s.pending? t = some p) (built : Builds s r p s.generation n) :
      Moves s (.reply t r)
        { s.settle t with forest := s.forest.plant n, root := some s.forest.length }
        [.announce, .finished t (.opened (.ok (some s.forest.length)))]
  | discards {t r p g n} (waits : s.pending? t = some p) (built : Builds s r p g n)
      (late : g ≠ s.generation) :
      Moves s (.reply t r) (s.settle t) [.finished t (.opened (.ok none))]
  | fails {t r p e} (waits : s.pending? t = some p) (failed : Fails s r p e) :
      Moves s (.reply t r) (s.settle t) [.finished t (p.failure e)]
  | grows {t r h under n} (waits : s.pending? t = some (.expansion h under))
      (read : s.decode r = .ok n) :
      Moves s (.reply t r) { s.settle t with forest := s.grown h n }
        ((if s.root.isSome && s.root == under then [.announce] else []) ++
          [.finished t (.listed (.ok (placesFrom s.forest.length (s.newChildren h n))))])

theorem listChildrenMoves {s : Session} {i h f} (asks : Asks s i h f) :
    Moves s i (({ s with forest := f }.issue).listChildren s.issued h).1
      (({ s with forest := f }.issue).listChildren s.issued h).2 := by
  simp only [listChildren, issue]
  cases found : f[h]? with
  | none => exact .absent asks found
  | some c =>
    cases full : c.isMaterialized with
    | true => simpa [full] using Moves.atHand asks found full
    | false =>
      cases known : s.kind.expansionParams c.symbol c.facet with
      | ok params => simpa [full, known, await] using Moves.fetches asks found full known
      | error cause => simpa [full, known] using Moves.refuses asks found known

theorem childrenMoves (s : Session) (node : Option Handle) :
    Moves s (.children node) (s.children node).1 (s.children node).2 := by
  obtain ⟨kind, forest, root, generation, waiting, issued⟩ := s
  cases root with
  | none => exact .idle rfl
  | some r =>
    cases node with
    | none => exact .listsRoot rfl
    | some h =>
      have moves := listChildrenMoves
        (.viewing (s := ⟨kind, forest, some r, generation, waiting, issued⟩) h rfl)
      simp only [Forest.shown] at moves
      simp only [children, issue]
      cases found : forest[h]? with
      | none => simpa only [found, issue] using moves
      | some c =>
        cases group : c.synthetic <;> simpa [found, group, issue] using moves

theorem installMoves {s : Session} {t r p g n} (waits : s.pending? t = some p)
    (built : Builds s r p g n) :
    Moves s (.reply t r) ((s.settle t).install t g n).1 ((s.settle t).install t g n).2 := by
  by_cases last : g = s.generation
  · subst last
    simpa [install, settle] using Moves.installs waits built
  · simpa [install, settle, last] using Moves.discards waits built last

theorem receiveMoves (s : Session) (t : Ticket) (r : Reply) :
    Moves s (.reply t r) (s.receive t r).1 (s.receive t r).2 := by
  unfold receive
  cases waits : s.pending? t with
  | none => exact .unexpected waits
  | some p =>
    have same : (s.settle t).decode r = s.decode r := rfl
    cases read : s.decode r with
    | error e =>
      have moves := Moves.fails waits (.refused read)
      cases p <;> simpa [same, read, Pending.failure] using moves
    | ok n =>
      cases p with
      | callRoot g => simpa [same, read] using installMoves waits (.call read)
      | derivedRoot g =>
        have moves := Moves.enters waits read
        simpa [same, read, Node.copySymbol] using moves
      | baseRoot g entry =>
        cases joined : entry.merge n with
        | ok root => simpa [same, read, joined] using installMoves waits (.merged read joined)
        | error why =>
          have moves := Moves.fails waits (.unmaterialized read joined)
          simpa [same, read, joined, Pending.failure] using moves
      | expansion h under =>
        simp only [same, read]
        exact .grows waits read

theorem stepMoves (s : Session) (i : Input) : Moves s i (s.step i).1 (s.step i).2 := by
  cases i with
  | «open» p =>
    have moves := Moves.starts (s := s) p
    cases kind : s.kind <;> simpa [step, start, issue, await, kind, Kind.firstWait] using moves
  | close =>
    have moves := Moves.closes (s := s)
    cases active : s.root <;> simpa [step, close, isActive, active] using moves
  | expand h => exact listChildrenMoves (.expanding h)
  | children node => exact childrenMoves s node
  | reply t r => exact receiveMoves s t r

inductive Begins (s : Session) : Input → Ticket × Pending → Prop
  | opening (p : DocumentPosition) :
      Begins s (.open p) (s.issued, s.kind.firstWait (s.generation + 1))
  | entry {t r g n} (waits : s.pending? t = some (.derivedRoot g)) (read : s.decode r = .ok n) :
      Begins s (.reply t r) (t, .baseRoot g (n.withDirection true))
  | fetch {i h f c} (asks : Asks s i h f) (found : f[h]? = some c)
      (missing : c.isMaterialized = false) : Begins s i (s.issued, .expansion h s.root)

theorem beginsEntry {s : Session} {i w g entry} (begins : Begins s i w)
    (waits : w.2 = .baseRoot g entry) :
    ∃ t r n, i = .reply t r ∧ s.decode r = .ok n ∧ entry = n.withDirection true := by
  cases begins with
  | opening p => cases kind : s.kind <;> simp [kind, Kind.firstWait] at waits
  | entry before read =>
    cases waits
    exact ⟨_, _, _, rfl, read, rfl⟩
  | fetch => cases waits

theorem beginsFetch {s : Session} {i w h under} (begins : Begins s i w)
    (waits : w.2 = .expansion h under) :
    ∃ f c, Asks s i h f ∧ f[h]? = some c ∧ c.isMaterialized = false := by
  cases begins with
  | opening p => cases kind : s.kind <;> simp [kind, Kind.firstWait] at waits
  | entry => cases waits
  | fetch asks found missing =>
    cases waits
    exact ⟨_, _, asks, found, missing⟩

theorem settleWaits {s : Session} {t : Ticket} {w} (mem : w ∈ (s.settle t).waiting) :
    w ∈ s.waiting ∧ w.1 ≠ t := by
  obtain ⟨old, other⟩ := List.mem_filter.mp mem
  exact ⟨old, by simpa using other⟩

theorem movesWaiting {s i s' es} (moves : Moves s i s' es) {w} (mem : w ∈ s'.waiting) :
    w ∈ s.waiting ∨ Begins s i w := by
  cases moves with
  | starts p =>
    rcases List.mem_append.mp mem with old | new
    · exact .inl old
    · exact .inr (List.mem_singleton.mp new ▸ .opening p)
  | fetches asks found missing =>
    rcases List.mem_append.mp mem with old | new
    · exact .inl old
    · exact .inr (List.mem_singleton.mp new ▸ .fetch asks found missing)
  | enters waits read =>
    rcases List.mem_append.mp mem with old | new
    · exact .inl (settleWaits old).1
    · exact .inr (List.mem_singleton.mp new ▸ .entry waits read)
  | installs => exact .inl (settleWaits mem).1
  | discards => exact .inl (settleWaits mem).1
  | fails => exact .inl (settleWaits mem).1
  | grows => exact .inl (settleWaits mem).1
  | _ => exact .inl mem

inductive Turns (s : Session) :
    Input → Forest → Option Handle → List (Ticket × Handle) → Prop
  | rests {i} (stays : i ≠ .close) : Turns s i s.forest s.root []
  | closes : Turns s .close s.forest none []
  | looks {i h f} (asks : Asks s i h f) : Turns s i f s.root []
  | installs {t r p n} (waits : s.pending? t = some p) (built : Builds s r p s.generation n) :
      Turns s (.reply t r) (s.forest.plant n) (some s.forest.length) [(t, s.forest.length)]
  | grows {t r h under n} (waits : s.pending? t = some (.expansion h under))
      (read : s.decode r = .ok n) : Turns s (.reply t r) (s.grown h n) s.root []

theorem movesTurns {s i s' es} (moves : Moves s i s' es) :
    Turns s i s'.forest s'.root (installed es) := by
  cases moves with
  | starts p => exact .rests nofun
  | closes => exact announceQuiet s.isActive ▸ .closes
  | idle inactive => exact .rests nofun
  | listsRoot active => exact .rests nofun
  | absent asks => exact .looks asks
  | atHand asks => exact .looks asks
  | fetches asks => exact .looks asks
  | refuses asks => exact .looks asks
  | unexpected stray => exact .rests nofun
  | enters waits read => exact .rests nofun
  | installs waits built => exact .installs waits built
  | discards => exact .rests nofun
  | fails waits failed => exact failureQuiet _ _ _ ▸ .rests nofun
  | grows waits read => exact listedQuiet _ _ _ ▸ .grows waits read

end Session
end SymbolHierarchy
