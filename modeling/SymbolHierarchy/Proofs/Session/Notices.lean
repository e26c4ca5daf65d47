import SymbolHierarchy.Proofs.Session.Delivery

/-! How often a session announces a change: once for every root that is installed, once for every
closing that finds a root, and once for every reply to an expansion under the root that it was
asked under. No root comes back, so the tickets tell these expansions: they were taken since the
root was last turned. -/
namespace SymbolHierarchy

def Effect.announces : Effect → Bool
  | .announce => true
  | _ => false

namespace Session

def announced (s : Session) (inputs : List Input) : Nat :=
  (s.run inputs).2.flatten.countP Effect.announces

def dismisses (s : Session) : Input → Bool
  | .close => s.isActive
  | _ => false

def turns (s : Session) (i : Input) : Bool := !(installed (s.step i).2).isEmpty || s.dismisses i

def reaches (s : Session) (bound : Ticket) : Input → Bool
  | .reply t r => (s.growth? (.reply t r)).isSome && s.isActive && decide (bound ≤ t)
  | _ => false

def bounded (s : Session) (bound : Ticket) (i : Input) : Ticket :=
  if s.turns i then (s.step i).1.issued else bound

def since (s : Session) (bound : Ticket) : List Input → Ticket
  | [] => bound
  | i :: rest => since (s.step i).1 (s.bounded bound i) rest

def dismissals (s : Session) : List Input → Nat
  | [] => 0
  | i :: rest => (s.dismisses i).toNat + dismissals (s.step i).1 rest

def turnings (s : Session) : List Input → Nat
  | [] => 0
  | i :: rest => (s.turns i).toNat + turnings (s.step i).1 rest

def timely (s : Session) (bound : Ticket) : List Input → Nat
  | [] => 0
  | i :: rest => (s.reaches bound i).toNat + timely (s.step i).1 (s.bounded bound i) rest

theorem asksDismissNone {s : Session} {i h f} (asks : Asks s i h f) : s.dismisses i = false := by
  cases asks <;> rfl

theorem growthReply {s : Session} {i g} (growth : s.growth? i = some g) :
    ∃ t r under, i = .reply t r ∧ s.pending? t = some (.expansion g.target under) ∧
      s.decode r = .ok g.reply := by
  cases i with
  | reply t r =>
    simp only [growth?] at growth
    split at growth
    · cases growth
      exact ⟨t, r, _, rfl, by assumption, by assumption⟩
    · cases growth
  | _ => cases growth

theorem turnAnnounced {s i s' es} (moves : Moves s i s' es) (other : s.growth? i = none) :
    es.countP Effect.announces = (installed es).length + (s.dismisses i).toNat := by
  cases moves with
  | closes => cases active : s.isActive <;> simp [dismisses, active] <;> rfl
  | absent asks | atHand asks | fetches asks | refuses asks => exact asksDismissNone asks ▸ rfl
  | @fails _ _ p => cases p <;> rfl
  | grows waits read => simp [growth?, waits, read] at other
  | _ => rfl

theorem growthAnnounced {s : Session} {t r h under n}
    (waits : s.pending? t = some (.expansion h under)) (read : s.decode r = .ok n) :
    installed (s.step (.reply t r)).2 = [] ∧
      (s.step (.reply t r)).2.countP Effect.announces =
        (s.root.isSome && s.root == under).toNat := by
  simp only [step, receive, waits, show (s.settle t).decode r = .ok n from read, attach]
  refine ⟨listedQuiet _ _ _, ?_⟩
  change (List.countP _ ((if (s.root.isSome && s.root == under) = true then _ else _) ++ _)) = _
  cases s.root.isSome && s.root == under <;> rfl

/- The expansions asked for since the last turn are those asked for under the present root. -/
structure Dated (s : Session) (bound : Ticket) : Prop where
  low : bound ≤ s.issued
  young : ∀ w ∈ s.waiting, w.1 < s.issued
  under : ∀ (t : Ticket) (h r : Nat) under, (t, Pending.expansion h under) ∈ s.waiting →
    s.root = some r → (bound ≤ t ↔ under = some r)

section Dated

variable {s : Session} {bound : Ticket}

theorem unturnedRoot {i : Input} (still : s.turns i = false) : (s.step i).1.root = s.root := by
  obtain ⟨silent, calm⟩ : installed (s.step i).2 = [] ∧ s.dismisses i = false := by
    simpa [Session.turns] using still
  rw [movesRoot (stepMoves s i), rootSince, silent]
  cases i with
  | close =>
    have gone : s.root = none := by simpa [dismisses, isActive] using calm
    exact gone.symm
  | _ => rfl

theorem turnedRoot {i : Input} (turn : s.turns i = true) :
    (s.step i).1.root = none ∨ (s.step i).1.root = some s.forest.length := by
  have turns := movesTurns (stepMoves s i)
  rw [Session.turns] at turn
  generalize (s.step i).1.forest = f at turns
  generalize (s.step i).1.root = root at turns ⊢
  generalize installed (s.step i).2 = ins at turn turns
  cases turns with
  | rests stays => cases i <;> first | exact absurd rfl stays | cases turn
  | closes => exact .inl rfl
  | looks asks => simp [asksDismissNone asks] at turn
  | installs => exact .inr rfl
  | grows => cases turn

theorem stepDated (grounded : s.Grounded) (dated : s.Dated bound) (i : Input) :
    (s.step i).1.Dated (s.bounded bound i) := by
  have moves := stepMoves s i
  have later := (movesNoEarlier moves).1
  have young := movesYoung moves dated.young
  have origin : ∀ {t : Ticket} {h : Nat} {under},
      (t, Pending.expansion h under) ∈ (s.step i).1.waiting →
      (t, Pending.expansion h under) ∈ s.waiting ∨ t = s.issued ∧ under = s.root := by
    intro t h under mem
    rcases movesWaiting moves mem with old | new
    · exact .inl old
    · obtain ⟨ticket, root, _⟩ := beginsAsked new rfl
      exact .inr ⟨ticket, root⟩
  cases turn : s.turns i with
  | true =>
    rw [bounded, turn]
    refine ⟨Nat.le_refl _, young, ?_⟩
    intro t h r under mem active
    have early : t < (s.step i).1.issued := young _ mem
    have apart : under ≠ some r := by
      rintro rfl
      have place : r = s.forest.length := by
        rcases turnedRoot turn with gone | fresh
        · rw [gone] at active
          cases active
        · exact Option.some.inj (active.symm.trans fresh)
      -- a root that was there before stands in front of the new one
      have before : r < s.forest.length := by
        rcases origin mem with old | ⟨_, root⟩
        · exact grounded.roots t h r old
        · exact grounded.root r root.symm
      omega
    exact ⟨fun late => absurd early (Nat.not_lt_of_le late), fun same => absurd same apart⟩
  | false =>
    rw [bounded, turn]
    refine ⟨Nat.le_trans dated.low later, young, ?_⟩
    intro t h r under mem active
    rw [unturnedRoot turn] at active
    rcases origin mem with old | ⟨rfl, rfl⟩
    · exact dated.under t h r under old active
    · exact ⟨fun _ => active, fun _ => dated.low⟩

theorem stepAnnounced (dated : s.Dated bound) (i : Input) :
    (s.step i).2.countP Effect.announces =
      (installed (s.step i).2).length + (s.dismisses i).toNat + (s.reaches bound i).toNat := by
  cases growth : s.growth? i with
  | none =>
    have still : s.reaches bound i = false := by
      cases i with
      | reply => simp [reaches, growth]
      | _ => rfl
    rw [turnAnnounced (stepMoves s i) growth, still]
    rfl
  | some g =>
    obtain ⟨t, r, under, rfl, waits, read⟩ := growthReply growth
    obtain ⟨quiet, told⟩ := growthAnnounced waits read
    have reached : s.reaches bound (.reply t r) = (s.root.isSome && s.root == under) := by
      simp only [reaches, growth, Option.isSome_some, Bool.true_and, isActive]
      cases active : s.root with
      | none => rfl
      | some q =>
        have same := dated.under t g.target q under (pendingWaits waits) active
        rw [Option.isSome_some, Bool.true_and, Bool.true_and, Bool.eq_iff_iff, decide_eq_true_iff,
          beq_iff_eq]
        exact same.trans eq_comm
    rw [quiet, told, reached]
    simp [dismisses]

theorem runAnnounced (grounded : s.Grounded) (dated : s.Dated bound) (inputs : List Input) :
    s.announced inputs =
      (s.installs inputs).length + s.dismissals inputs + s.timely bound inputs := by
  induction inputs generalizing s bound with
  | nil => rfl
  | cons i rest ih =>
    have now := stepAnnounced dated i
    have later := ih (movesGrounded (stepMoves s i) grounded) (stepDated grounded dated i)
    rw [announced] at later
    rw [announced, runCons, List.flatten_cons, List.countP_append, later, now, installsCons,
      List.length_append, List.length_map, dismissals, timely]
    omega

end Dated

theorem freshDated (k : Kind) : (fresh k).Dated 0 where
  low := Nat.le_refl _
  young := by simp [fresh]
  under := by simp [fresh]

theorem afterDated {s : Session} {bound : Ticket} (grounded : s.Grounded) (dated : s.Dated bound)
    (inputs : List Input) : (s.after inputs).Dated (s.since bound inputs) := by
  induction inputs generalizing s bound with
  | nil => exact dated
  | cons i rest ih =>
    rw [afterCons]
    exact ih (movesGrounded (stepMoves s i) grounded) (stepDated grounded dated i)

theorem sinceTurn (s : Session) (bound : Ticket) (inputs : List Input) :
    (s.turnings inputs = 0 → s.since bound inputs = bound) ∧
      (s.turnings inputs ≠ 0 → s.issued ≤ s.since bound inputs) := by
  induction inputs generalizing s bound with
  | nil => exact ⟨fun _ => rfl, fun no => absurd rfl no⟩
  | cons i rest ih =>
    have later := (movesNoEarlier (stepMoves s i)).1
    obtain ⟨still, moved⟩ := ih (s.step i).1 (s.bounded bound i)
    rw [turnings, since]
    cases turn : s.turns i with
    | false =>
      rw [bounded, turn] at still moved ⊢
      simp only [Bool.toNat_false, Nat.zero_add]
      exact ⟨still, fun some => Nat.le_trans later (moved some)⟩
    | true =>
      refine ⟨by simp, fun _ => ?_⟩
      rw [bounded, turn] at still moved ⊢
      by_cases none : (s.step i).1.turnings rest = 0
      · rw [still none]
        exact later
      · exact Nat.le_trans later (moved none)

theorem questionUnturned {s : Session} {i : Input} {h : Handle}
    (asks : i = .expand h ∨ i = .children (some h)) : s.turns i = false := by
  have turns := movesTurns (stepMoves s i)
  rw [Session.turns]
  generalize (s.step i).1.forest = f at turns
  generalize (s.step i).1.root = root at turns
  generalize installed (s.step i).2 = ins at turns ⊢
  rcases asks with rfl | rfl
  · cases turns <;> rfl
  · cases turns <;> rfl

theorem sinceAsked {s : Session} {bound : Ticket} (low : bound ≤ s.issued) {i : Input} {h : Handle}
    (asks : i = .expand h ∨ i = .children (some h)) (between : List Input) :
    s.since bound (i :: between) ≤ s.issued ↔ s.turnings (i :: between) = 0 := by
  have unturned := questionUnturned (s := s) asks
  have ticketed : i.ticketed = true := by
    rcases asks with rfl | rfl
    · rfl
    · rfl
  have next : (s.step i).1.issued = s.issued + 1 := by
    rw [movesIssued (stepMoves s i), ticketed]
    rfl
  have same : s.bounded bound i = bound := by rw [bounded, unturned]; rfl
  obtain ⟨still, moved⟩ := sinceTurn (s.step i).1 bound between
  rw [since, turnings, same, unturned, Bool.toNat_false, Nat.zero_add]
  by_cases none : (s.step i).1.turnings between = 0
  · rw [still none]
    exact ⟨fun _ => none, fun _ => low⟩
  · have past := moved none
    rw [next] at past
    exact ⟨fun early => absurd early (Nat.not_le_of_lt past), fun no => absurd no none⟩

/- A reply to an expansion counts under a root that was not turned since it was asked for. -/
theorem timelyExactly {k : Kind} {before between : List Input} {i : Input} {r : Reply} {g : Growth}
    (asks : i = .expand g.target ∨ i = .children (some g.target))
    (growth : ((fresh k).after (before ++ i :: between)).growth?
      (.reply ((fresh k).after before).issued r) = some g) :
    ((fresh k).after (before ++ i :: between)).reaches
        (((fresh k).after before).since ((fresh k).since 0 before) (i :: between))
        (.reply ((fresh k).after before).issued r) =
      decide (((fresh k).after (before ++ i :: between)).isActive ∧
        ((fresh k).after before).turnings (i :: between) = 0) := by
  have start := afterDated (freshGrounded k) (freshDated k) before
  rw [reaches, growth, Option.isSome_some, Bool.true_and, Bool.decide_and, Bool.decide_eq_true]
  exact congrArg _ (decide_eq_decide.mpr (sinceAsked start.low asks between))

theorem sinceAppend (s : Session) (bound : Ticket) (front back : List Input) :
    s.since bound (front ++ back) = (s.after front).since (s.since bound front) back := by
  induction front generalizing s bound with
  | nil => rfl
  | cons i rest ih => exact (ih _ _).trans (by rw [afterCons, since])

/- Announcements are accounted for one by one. -/
structure Accounted (k : Kind) : Prop where
  total : ∀ inputs, (fresh k).announced inputs =
    ((fresh k).installs inputs).length + (fresh k).dismissals inputs + (fresh k).timely 0 inputs
  step : ∀ inputs i, (((fresh k).after inputs).step i).2.countP Effect.announces =
    (installed (((fresh k).after inputs).step i).2).length +
      (((fresh k).after inputs).dismisses i).toNat +
      (((fresh k).after inputs).reaches ((fresh k).since 0 inputs) i).toNat
  expansion : ∀ inputs t r g, ((fresh k).after inputs).growth? (.reply t r) = some g →
    ∃ before i between, inputs = before ++ i :: between ∧ t = ((fresh k).after before).issued ∧
      (i = .expand g.target ∨ i = .children (some g.target)) ∧
      ((fresh k).after inputs).reaches ((fresh k).since 0 inputs) (.reply t r) =
        decide (((fresh k).after inputs).isActive ∧
          ((fresh k).after before).turnings (i :: between) = 0) ∧
      installed (((fresh k).after inputs).step (.reply t r)).2 = []

theorem everyNoticeAccounted (k : Kind) : Accounted k := by
  refine ⟨?_, ?_, ?_⟩
  · intro inputs
    exact runAnnounced (freshGrounded k) (freshDated k) inputs
  · intro inputs i
    exact stepAnnounced (afterDated (freshGrounded k) (freshDated k) inputs) i
  · intro inputs t r g growth
    obtain ⟨t, r, under, same, waits, read⟩ := growthReply growth
    cases same
    rcases askedBefore (fresh k) inputs (pendingWaits waits) with start | asked
    · simp [fresh] at start
    · obtain ⟨before, i, between, rfl, rfl, _, asks⟩ := asked
      refine ⟨before, i, between, rfl, rfl, asks, ?_, (growthAnnounced waits read).1⟩
      rw [sinceAppend]
      exact timelyExactly asks growth

end Session
end SymbolHierarchy
