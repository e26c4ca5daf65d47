import SymbolHierarchy.Proofs.Session.Run

/-! The order in which roots are installed. At most one opening that waits is of the session's
own generation, the one called last; once its root stands, only a later one can replace it, and
none that waits at a closing. What the root is can be told from the effects alone. -/
namespace SymbolHierarchy

def Input.supersedes : Input → Bool
  | .open _ => true
  | .close => true
  | _ => false

def Input.ticketed : Input → Bool
  | .open _ => true
  | .expand _ => true
  | .children _ => true
  | _ => false

def Pending.generation? : Pending → Option Nat
  | .callRoot g => some g
  | .derivedRoot g => some g
  | .baseRoot g _ => some g
  | .expansion _ _ => none

namespace Session

def Opening (s : Session) (t : Ticket) (g : Nat) : Prop :=
  ∃ p, (t, p) ∈ s.waiting ∧ p.generation? = some g

theorem asksPlain {s : Session} {i h f} (asks : Asks s i h f) :
    i.supersedes = false ∧ i.ticketed = true := by
  cases asks <;> exact ⟨rfl, rfl⟩

theorem movesIssued {s i s' es} (moves : Moves s i s' es) :
    s'.issued = s.issued + if i.ticketed then 1 else 0 := by
  cases moves with
  | absent asks => simp [(asksPlain asks).2]
  | atHand asks => simp [(asksPlain asks).2]
  | fetches asks => simp [(asksPlain asks).2]
  | refuses asks => simp [(asksPlain asks).2]
  | _ => rfl

theorem movesGeneration {s i s' es} (moves : Moves s i s' es) :
    s'.generation = s.generation + if i.supersedes then 1 else 0 := by
  cases moves with
  | absent asks => simp [(asksPlain asks).1]
  | atHand asks => simp [(asksPlain asks).1]
  | fetches asks => simp [(asksPlain asks).1]
  | refuses asks => simp [(asksPlain asks).1]
  | _ => rfl

theorem movesNoEarlier {s i s' es} (moves : Moves s i s' es) :
    s.issued ≤ s'.issued ∧ s.generation ≤ s'.generation := by
  rw [movesIssued moves, movesGeneration moves]
  exact ⟨Nat.le_add_right _ _, Nat.le_add_right _ _⟩

theorem afterGeneration (s : Session) (inputs : List Input) :
    (s.after inputs).generation = s.generation + inputs.countP Input.supersedes := by
  induction inputs generalizing s with
  | nil => rfl
  | cons i rest ih =>
    rw [afterCons, ih, movesGeneration (stepMoves s i), List.countP_cons]
    omega

theorem buildsGeneration {s : Session} {r p g n} (built : Builds s r p g n) :
    p.generation? = some g := by
  cases built <;> rfl

theorem movesOpening {s i s' es t g} (moves : Moves s i s' es) (waits : s'.Opening t g) :
    s.Opening t g ∨ (∃ p, i = .open p) ∧ t = s.issued ∧ g = s.generation + 1 := by
  obtain ⟨p, mem, own⟩ := waits
  rcases movesWaiting moves mem with old | new
  · exact .inl ⟨p, old, own⟩
  · generalize wait : (t, p) = w at new
    cases new with
    | opening place =>
      obtain ⟨rfl, rfl⟩ := Prod.mk.inj wait
      have same : s.generation + 1 = g := by
        cases kind : s.kind <;> simpa [kind, Kind.firstWait, Pending.generation?] using own
      exact .inr ⟨⟨place, rfl⟩, rfl, same.symm⟩
    | entry before read =>
      obtain ⟨rfl, rfl⟩ := Prod.mk.inj wait
      exact .inl ⟨_, pendingWaits before, own⟩
    | fetch asks found missing =>
      obtain ⟨rfl, rfl⟩ := Prod.mk.inj wait
      simp [Pending.generation?] at own

theorem movesInstalled {s i s' es} (moves : Moves s i s' es) :
    installed es = [] ∨ ∃ t, installed es = [(t, s.forest.length)] ∧
      s.Opening t s.generation ∧ i.supersedes = false ∧ ∀ g, ¬ s'.Opening t g := by
  cases moves with
  | installs waits built =>
    refine .inr ⟨_, rfl, ⟨_, pendingWaits waits, buildsGeneration built⟩, rfl, ?_⟩
    rintro g ⟨p, mem, _⟩
    exact (settleWaits mem).2 rfl
  | closes => exact .inl (announceQuiet s.isActive)
  | fails => exact .inl (failureQuiet _ _ _)
  | grows => exact .inl (listedQuiet _ _ _)
  | _ => exact .inl rfl

/- Openings wait in the order of their generations; of the session's own there is at most one,
and its ticket is `bound` or later. -/
structure Ready (s : Session) (bound : Ticket) : Prop where
  early : ∀ t g, s.Opening t g → t < s.issued ∧ g ≤ s.generation
  alone : ∀ t t', s.Opening t s.generation → s.Opening t' s.generation → t = t'
  current : ∀ t, s.Opening t s.generation → bound ≤ t
  low : bound ≤ s.issued

section Ready

variable {s s' : Session} {i : Input} {es : List Effect} {bound : Ticket}

theorem readyEarly (ready : s.Ready bound) (moves : Moves s i s' es) {t g}
    (waits : s'.Opening t g) : t < s'.issued ∧ g ≤ s'.generation := by
  rcases movesOpening moves waits with old | ⟨⟨p, rfl⟩, rfl, rfl⟩
  · obtain ⟨before, past⟩ := ready.early t g old
    obtain ⟨issued, generation⟩ := movesNoEarlier moves
    exact ⟨Nat.lt_of_lt_of_le before issued, Nat.le_trans past generation⟩
  · rw [movesIssued moves, movesGeneration moves]
    exact ⟨Nat.lt_succ_self _, Nat.le_refl _⟩

theorem readyCurrent (ready : s.Ready bound) (moves : Moves s i s' es) {t}
    (waits : s'.Opening t s'.generation) :
    (i.supersedes = false ∧ s.Opening t s.generation) ∨ (∃ p, i = .open p) ∧ t = s.issued := by
  have generation := movesGeneration moves
  rcases movesOpening moves waits with old | ⟨opened, ticket, _⟩
  · have past := (ready.early t _ old).2
    cases plain : i.supersedes with
    | false =>
      have same : s'.generation = s.generation := by simpa [plain] using generation
      exact .inl ⟨rfl, same ▸ old⟩
    | true =>
      simp only [plain, if_true] at generation
      omega
  · exact .inr ⟨opened, ticket⟩

theorem readyAlone (ready : s.Ready bound) (moves : Moves s i s' es) {t t'}
    (waits : s'.Opening t s'.generation) (other : s'.Opening t' s'.generation) : t = t' := by
  rcases readyCurrent ready moves waits with ⟨plain, old⟩ | ⟨⟨p, rfl⟩, ticket⟩
  · rcases readyCurrent ready moves other with ⟨_, old'⟩ | ⟨⟨p, rfl⟩, _⟩
    · exact ready.alone t t' old old'
    · simp [Input.supersedes] at plain
  · rcases readyCurrent ready moves other with ⟨plain, _⟩ | ⟨_, ticket'⟩
    · simp [Input.supersedes] at plain
    · exact ticket.trans ticket'.symm

theorem readyKeeps (ready : s.Ready bound) (moves : Moves s i s' es) : s'.Ready bound := by
  refine ⟨fun t g => readyEarly ready moves, fun t t' => readyAlone ready moves, ?_, ?_⟩
  · intro t waits
    rcases readyCurrent ready moves waits with ⟨_, old⟩ | ⟨_, ticket⟩
    · exact ready.current t old
    · exact ticket ▸ ready.low
  · exact Nat.le_trans ready.low (movesNoEarlier moves).1

theorem readyInstalled (ready : s.Ready bound) (moves : Moves s i s' es) {t h}
    (installs : installed es = [(t, h)]) : bound ≤ t ∧ s'.Ready (t + 1) := by
  rcases movesInstalled moves with none | ⟨t', same, waits, plain, settled⟩
  · simp [none] at installs
  · have ticket : t' = t := by
      rw [same] at installs
      exact congrArg Prod.fst (List.cons.inj installs).1
    subst ticket
    have before := (ready.early t' _ waits).1
    refine ⟨ready.current t' waits, ?_⟩
    refine ⟨fun t g => readyEarly ready moves, fun t t' => readyAlone ready moves, ?_, ?_⟩
    · intro u later
      rcases readyCurrent ready moves later with ⟨_, old⟩ | ⟨⟨p, rfl⟩, _⟩
      · exact absurd (ready.alone u t' old waits ▸ later) (settled _)
      · simp [Input.supersedes] at plain
    · exact Nat.le_trans before (movesNoEarlier moves).1

theorem readyClosed (ready : s.Ready bound) (moves : Moves s .close s' es) :
    s'.Ready s.issued := by
  refine ⟨fun t g => readyEarly ready moves, fun t t' => readyAlone ready moves, ?_, ?_⟩
  · intro t waits
    rcases readyCurrent ready moves waits with ⟨plain, _⟩ | ⟨⟨p, no⟩, _⟩
    · simp [Input.supersedes] at plain
    · cases no
  · exact (movesNoEarlier moves).1

end Ready

theorem freshReady (k : Kind) : (fresh k).Ready 0 := by
  refine ⟨?_, ?_, ?_, Nat.zero_le _⟩ <;> simp [Opening, fresh]

theorem movesYoung {s i s' es} (moves : Moves s i s' es) (young : ∀ w ∈ s.waiting, w.1 < s.issued) :
    ∀ w ∈ s'.waiting, w.1 < s'.issued := by
  intro w mem
  have later := (movesNoEarlier moves).1
  rcases movesWaiting moves mem with old | new
  · exact Nat.lt_of_lt_of_le (young w old) later
  · cases new with
    | opening p =>
      rw [movesIssued moves]
      exact Nat.lt_succ_self _
    | entry waits read =>
      have held := young _ (pendingWaits waits)
      exact Nat.lt_of_lt_of_le held later
    | fetch asks found missing =>
      rw [movesIssued moves, (asksPlain asks).2]
      exact Nat.lt_succ_self _

theorem freshYoung (k : Kind) (inputs : List Input) :
    ∀ w ∈ ((fresh k).after inputs).waiting, w.1 < ((fresh k).after inputs).issued :=
  afterKeeps movesYoung (by simp [fresh]) inputs

def installs (s : Session) (inputs : List Input) : List Ticket :=
  (s.history inputs).flatMap fun e => (installed e.2).map Prod.fst

def openings (s : Session) : List Input → List Ticket
  | [] => []
  | .open p :: rest => s.issued :: openings (s.step (.open p)).1 rest
  | i :: rest => openings (s.step i).1 rest

theorem installsCons (s : Session) (i : Input) (rest : List Input) :
    s.installs (i :: rest) =
      (installed (s.step i).2).map Prod.fst ++ (s.step i).1.installs rest := by
  simp [installs, history]

theorem installsInOrder {s : Session} {bound : Ticket} (ready : s.Ready bound)
    (inputs : List Input) :
    (∀ t ∈ s.installs inputs, bound ≤ t) ∧ (s.installs inputs).Pairwise (· < ·) := by
  induction inputs generalizing s bound with
  | nil => exact ⟨by simp [installs, history], .nil⟩
  | cons i rest ih =>
    have moves := stepMoves s i
    rw [installsCons]
    rcases movesInstalled moves with none | ⟨t, one, _⟩
    · simpa [none] using ih (readyKeeps ready moves)
    -- an install raises the bound past its own ticket
    · obtain ⟨low, next⟩ := readyInstalled ready moves one
      obtain ⟨above, order⟩ := ih next
      simp only [one, List.map_cons, List.map_nil, List.singleton_append]
      refine ⟨?_, List.pairwise_cons.mpr ⟨above, order⟩⟩
      intro u mem
      rcases List.mem_cons.mp mem with rfl | later
      · exact low
      · exact Nat.le_trans low (Nat.le_of_lt (above u later))

theorem openingsCons (s : Session) (i : Input) (rest : List Input) {t : Ticket} :
    t ∈ s.openings (i :: rest) ↔
      ((∃ p, i = .open p) ∧ t = s.issued) ∨ t ∈ (s.step i).1.openings rest := by
  cases i <;> simp [openings]

theorem installsOpened (s : Session) (inputs : List Input) :
    ∀ t ∈ s.installs inputs, (∃ g, s.Opening t g) ∨ t ∈ s.openings inputs := by
  induction inputs generalizing s with
  | nil => simp [installs, history]
  | cons i rest ih =>
    intro t mem
    have moves := stepMoves s i
    rw [installsCons] at mem
    rw [openingsCons]
    rcases List.mem_append.mp mem with now | later
    · rcases movesInstalled moves with none | ⟨u, one, waits, _⟩
      · simp [none] at now
      · have same : t = u := by simpa [one] using now
        exact .inl ⟨_, same ▸ waits⟩
    · rcases ih _ t later with ⟨g, waits⟩ | opened
      · rcases movesOpening moves waits with old | ⟨here, ticket, _⟩
        · exact .inl ⟨g, old⟩
        · exact .inr (.inl ⟨here, ticket⟩)
      · exact .inr (.inr opened)

theorem afterIssued (s : Session) (inputs : List Input) : s.issued ≤ (s.after inputs).issued := by
  induction inputs generalizing s with
  | nil => exact Nat.le_refl _
  | cons i rest ih =>
    rw [afterCons]
    exact Nat.le_trans (movesNoEarlier (stepMoves s i)).1 (ih _)

theorem openingsIssued (s : Session) (inputs : List Input) :
    ∀ t ∈ s.openings inputs, t < (s.after inputs).issued := by
  induction inputs generalizing s with
  | nil => simp [openings]
  | cons i rest ih =>
    intro t mem
    rw [afterCons]
    rcases (openingsCons s i rest).mp mem with ⟨⟨p, rfl⟩, rfl⟩ | later
    · have next : s.issued < (s.step (.open p)).1.issued := by
        rw [movesIssued (stepMoves s (.open p))]
        exact Nat.lt_succ_self _
      exact Nat.lt_of_lt_of_le next (afterIssued _ rest)
    · exact ih _ t later

theorem openingsInOrder (s : Session) (inputs : List Input) :
    (∀ t ∈ s.openings inputs, s.issued ≤ t) ∧ (s.openings inputs).Pairwise (· < ·) := by
  induction inputs generalizing s with
  | nil => exact ⟨by simp [openings], .nil⟩
  | cons i rest ih =>
    have later := (movesNoEarlier (stepMoves s i)).1
    obtain ⟨above, order⟩ := ih (s.step i).1
    refine ⟨?_, ?_⟩
    · intro t mem
      rcases (openingsCons s i rest).mp mem with ⟨_, rfl⟩ | inside
      · exact Nat.le_refl _
      · exact Nat.le_trans later (above t inside)
    · cases i with
      | «open» p =>
        refine List.pairwise_cons.mpr ⟨?_, order⟩
        intro t mem
        have next := above t mem
        rw [movesIssued (stepMoves s (.open p))] at next
        exact next
      | _ => exact order

def rootSince (root : Option Handle) (e : Input × List Effect) : Option Handle :=
  match e.1, (installed e.2).getLast? with
  | .close, _ => none
  | _, some (_, h) => some h
  | _, none => root

theorem movesRoot {s i s' es} (moves : Moves s i s' es) : s'.root = rootSince s.root (i, es) := by
  have turns := movesTurns moves
  generalize s'.forest = f at turns
  generalize s'.root = root at turns ⊢
  simp only [rootSince]
  generalize installed es = ins at turns ⊢
  cases turns with
  | rests stays => cases i <;> first | rfl | exact absurd rfl stays
  | closes => rfl
  | looks asks => cases asks <;> rfl
  | installs => rfl
  | grows => rfl

theorem afterRoot (s : Session) (inputs : List Input) :
    (s.after inputs).root = (s.history inputs).foldl rootSince s.root := by
  induction inputs generalizing s with
  | nil => rfl
  | cons i rest ih => rw [afterCons, ih, history, List.foldl_cons, movesRoot (stepMoves s i)]

end Session
end SymbolHierarchy
