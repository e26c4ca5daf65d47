import SymbolHierarchy.Proofs.Session.Openings

/-! When an opening makes the root. Its replies build a tree whatever else goes on; the tree
becomes the root at the last reply just when no opening and no closing was called meanwhile. -/
namespace SymbolHierarchy
namespace Session

section Pending

variable {s s' : Session} {i : Input} {es : List Effect} {t u : Ticket}

theorem awaitPending (s : Session) (p : Pending) (other : u ≠ t) :
    (s.await u p).pending? t = s.pending? t := by
  simp [pending?, await, List.find?_append, other]

theorem awaitOwn (p : Pending) (absent : ∀ w ∈ s.waiting, w.1 ≠ t) :
    (s.await t p).pending? t = some p := by
  have none : s.waiting.find? (fun w => w.1 == t) = none := by simpa using absent
  simp [pending?, await, List.find?_append, none]

theorem settlePending (other : u ≠ t) : (s.settle u).pending? t = s.pending? t := by
  simp only [pending?, settle, List.find?_filter]
  congr 2
  funext w
  by_cases here : w.1 = t
  · simp [here, Ne.symm other]
  · simp [here]

theorem movesPending (moves : Moves s i s' es) (issued : t < s.issued)
    (silent : ∀ r, i ≠ .reply t r) : s'.pending? t = s.pending? t := by
  have young : s.issued ≠ t := Nat.ne_of_gt issued
  have apart : ∀ u r, i = .reply u r → u ≠ t := fun u r same here => silent r (here ▸ same)
  cases moves with
  | starts p => exact awaitPending s _ young
  | fetches => exact awaitPending s _ young
  | enters waits read =>
    have other := apart _ _ rfl
    exact (awaitPending _ _ other).trans (settlePending other)
  | installs => exact settlePending (s := s) (apart _ _ rfl)
  | discards => exact settlePending (s := s) (apart _ _ rfl)
  | fails => exact settlePending (s := s) (apart _ _ rfl)
  | grows => exact settlePending (s := s) (apart _ _ rfl)
  | _ => rfl

end Pending

def repliesTo (t : Ticket) (inputs : List Input) : List Reply :=
  inputs.filterMap fun
    | .reply u r => if u = t then some r else none
    | _ => none

def readAs (k : Kind) (r : Reply) : Option Node := do
  (Node.ofWire k.model (← r.toOption)).toOption

/- The root that an opening's replies make, if they are all there and none is in error. -/
def rootFrom : Kind → List Reply → Option Node
  | .call, [r] => readAs .call r
  | .inheritance, [r, r'] => do
    let entry ← readAs .inheritance r
    let base ← readAs .inheritance r'
    ((entry.withDirection true).merge base).toOption
  | _, _ => none

theorem readDecodes {s : Session} {r n} (read : readAs s.kind r = some n) :
    s.decode r = .ok n := by
  cases r with
  | error e => simp [readAs, Except.toOption] at read
  | ok v =>
    cases wire : Node.ofWire s.kind.model v with
    | error e => simp [readAs, Except.toOption, wire] at read
    | ok m =>
      have same : m = n := by simpa [readAs, Except.toOption, wire] using read
      simp [decode, wire, same, bind, Except.bind]

theorem silentPending {s : Session} {t : Ticket} (issued : t < s.issued) {inputs : List Input}
    (silent : repliesTo t inputs = []) : (s.after inputs).pending? t = s.pending? t := by
  induction inputs generalizing s with
  | nil => rfl
  | cons i rest ih =>
    have moves := stepMoves s i
    simp only [repliesTo, List.filterMap_eq_nil_iff] at silent
    have own : ∀ r, i ≠ .reply t r := by
      rintro r rfl
      simpa using silent _ List.mem_cons_self
    rw [afterCons, ih (Nat.lt_of_lt_of_le issued (movesNoEarlier moves).1)]
    · exact movesPending moves issued own
    · simp only [repliesTo, List.filterMap_eq_nil_iff]
      exact fun j mem => silent j (List.mem_cons_of_mem _ mem)

theorem enteredPending {s : Session} {t : Ticket} {g : Nat} {r : Reply} {entry : Node}
    (issued : t < s.issued) (waits : s.pending? t = some (.derivedRoot g))
    (read : readAs s.kind r = some entry) {inputs : List Input}
    (once : repliesTo t inputs = [r]) :
    (s.after inputs).pending? t = some (.baseRoot g (entry.withDirection true)) := by
  obtain ⟨front, i, back, rfl, before, here, later⟩ := List.filterMap_eq_cons_iff.mp once
  have same : i = .reply t r := by
    cases i with
    | reply u r' =>
      simp only [Option.ite_none_right_eq_some] at here
      obtain ⟨rfl, told⟩ := here
      exact congrArg _ (Option.some.inj told)
    | _ => simp at here
  subst same
  have quiet : repliesTo t front = [] := List.filterMap_eq_nil_iff.mpr before
  have reached : (s.after front).pending? t = some (.derivedRoot g) :=
    (silentPending issued quiet).trans waits
  have decoded : (s.after front).decode r = .ok entry :=
    readDecodes (by rw [afterKind]; exact read)
  have held : t < (s.after front).issued := Nat.lt_of_lt_of_le issued (afterIssued s front)
  have moves := stepMoves (s.after front) (.reply t r)
  have next : ((s.after front).step (.reply t r)).1 =
      ((s.after front).settle t).await t (.baseRoot g (entry.withDirection true)) := by
    simp only [step, receive, reached]
    rw [show ((s.after front).settle t).decode r = .ok entry from decoded]
  rw [afterAppend, afterCons, silentPending _ later, next]
  · exact awaitOwn _ fun w mem => (settleWaits mem).2
  · exact Nat.lt_of_lt_of_le held (movesNoEarlier moves).1

theorem callRootFrom {rs n} (made : rootFrom .call rs = some n) :
    ∃ r, rs = [r] ∧ readAs .call r = some n := by
  match rs with
  | [r] => exact ⟨r, rfl, made⟩
  | [] => simp [rootFrom] at made
  | _ :: _ :: _ => simp [rootFrom] at made

theorem inheritanceRootFrom {rs n} (made : rootFrom .inheritance rs = some n) :
    ∃ r r' entry base, rs = [r, r'] ∧ readAs .inheritance r = some entry ∧
      readAs .inheritance r' = some base ∧ (entry.withDirection true).merge base = .ok n := by
  match rs with
  | [r, r'] =>
    simp only [rootFrom, bind, Option.bind_eq_some_iff] at made
    obtain ⟨entry, first, base, second, joined⟩ := made
    refine ⟨r, r', entry, base, rfl, first, second, ?_⟩
    cases merged : (entry.withDirection true).merge base with
    | ok m => simpa [merged, Except.toOption] using joined
    | error e => simp [merged, Except.toOption] at joined
  | [] => simp [rootFrom] at made
  | [_] => simp [rootFrom] at made
  | _ :: _ :: _ :: _ => simp [rootFrom] at made

theorem completedBuilds {s : Session} {t : Ticket} {g : Nat} (issued : t < s.issued)
    (waits : s.pending? t = some (s.kind.firstWait g)) {inputs : List Input} {r n}
    (made : rootFrom s.kind (repliesTo t inputs ++ [r]) = some n) :
    ∃ p, (s.after inputs).pending? t = some p ∧ Builds (s.after inputs) r p g n := by
  have same : (s.after inputs).kind = s.kind := afterKind s inputs
  cases kind : s.kind with
  | call =>
    rw [kind] at made waits
    obtain ⟨r', all, read⟩ := callRootFrom made
    have split : repliesTo t inputs ++ [r] = [] ++ [r'] := all
    obtain ⟨silent, last⟩ := List.append_inj' split rfl
    cases last
    refine ⟨_, (silentPending issued silent).trans waits, .call (readDecodes ?_)⟩
    rw [same, kind]
    exact read
  | inheritance =>
    rw [kind] at made waits
    obtain ⟨r', r'', entry, base, all, first, second, joined⟩ := inheritanceRootFrom made
    have split : repliesTo t inputs ++ [r] = [r'] ++ [r''] := all
    obtain ⟨once, last⟩ := List.append_inj' split rfl
    cases last
    have entered := enteredPending issued waits (by rw [kind]; exact first) once
    refine ⟨_, entered, .merged (readDecodes ?_) joined⟩
    rw [same, kind]
    exact second

theorem builtStep {s : Session} {t r p g n} (waits : s.pending? t = some p)
    (built : Builds s r p g n) : s.step (.reply t r) = (s.settle t).install t g n := by
  have same : (s.settle t).decode r = s.decode r := rfl
  cases built with
  | call read => simp [step, receive, waits, same, read]
  | merged read joined => simp [step, receive, waits, same, read, joined]

def Undisturbed (inputs : List Input) : Prop := ∀ i ∈ inputs, i.supersedes = false
instance (inputs : List Input) : Decidable (Undisturbed inputs) := by
  unfold Undisturbed
  infer_instance

theorem openPending {s : Session} (young : ∀ w ∈ s.waiting, w.1 < s.issued)
    (p : DocumentPosition) :
    (s.step (.open p)).1.pending? s.issued = some (s.kind.firstWait (s.generation + 1)) := by
  have apart : ∀ w ∈ s.waiting, w.1 ≠ s.issued := fun w mem => Nat.ne_of_lt (young w mem)
  cases kind : s.kind with
  | call =>
    simp only [step, start, kind, Kind.firstWait]
    exact awaitOwn (s := s) (.callRoot (s.generation + 1)) apart
  | inheritance =>
    simp only [step, start, kind, Kind.firstWait]
    exact awaitOwn (s := s) (.derivedRoot (s.generation + 1)) apart

theorem lastReply {s : Session} (young : ∀ w ∈ s.waiting, w.1 < s.issued)
    (p : DocumentPosition) (between : List Input) {r n}
    (made : rootFrom s.kind (repliesTo s.issued between ++ [r]) = some n) :
    ((s.step (.open p)).1.after between).step (.reply s.issued r) =
      (((s.step (.open p)).1.after between).settle s.issued).install s.issued
        (s.generation + 1) n := by
  have moves := stepMoves s (.open p)
  have issued : s.issued < (s.step (.open p)).1.issued := by
    rw [movesIssued moves]
    exact Nat.lt_succ_self _
  have waits := openPending young p
  have same := movesKind moves
  rw [← same] at made waits
  obtain ⟨q, held, built⟩ := completedBuilds issued waits made
  exact builtStep held built

theorem betweenGeneration (s : Session) (p : DocumentPosition) (between : List Input) :
    ((s.step (.open p)).1.after between).generation =
      s.generation + 1 + between.countP Input.supersedes := by
  rw [afterGeneration, movesGeneration (stepMoves s (.open p))]
  rfl

theorem undisturbedCount {inputs : List Input} :
    Undisturbed inputs ↔ inputs.countP Input.supersedes = 0 := by
  simp [Undisturbed, List.countP_eq_zero]

def rooted (s : Session) (t : Ticket) (n : Node) : Session × List Effect :=
  ({ s.settle t with forest := s.forest.plant n, root := some s.forest.length },
    [.announce, .finished t (.opened (.ok (some s.forest.length)))])

def dropped (s : Session) (t : Ticket) : Session × List Effect :=
  (s.settle t, [.finished t (.opened (.ok none))])

theorem openReply (k : Kind) (before : List Input) (p : DocumentPosition) (between : List Input)
    {r n} (made : rootFrom k (repliesTo ((fresh k).after before).issued between ++ [r]) = some n) :
    ((fresh k).after (before ++ .open p :: between)).step
        (.reply ((fresh k).after before).issued r) =
      if Undisturbed between then
        ((fresh k).after (before ++ .open p :: between)).rooted ((fresh k).after before).issued n
      else
        ((fresh k).after (before ++ .open p :: between)).dropped
          ((fresh k).after before).issued := by
  have young := freshYoung k before
  have kind : ((fresh k).after before).kind = k := afterKind (fresh k) before
  generalize same : (fresh k).after before = s at made young kind ⊢
  subst kind
  rw [afterAppend, afterCons, same, lastReply young p between made, install]
  have generation := betweenGeneration s p between
  by_cases quiet : Undisturbed between
  · have count := undisturbedCount.mp quiet
    rw [if_pos quiet, if_pos]
    · rfl
    · change s.generation + 1 = ((s.step (.open p)).1.after between).generation
      rw [generation, count]
  · have count : between.countP Input.supersedes ≠ 0 := fun no => quiet (undisturbedCount.mpr no)
    rw [if_neg quiet, if_neg]
    · rfl
    · change s.generation + 1 ≠ ((s.step (.open p)).1.after between).generation
      rw [generation]
      omega

/- Roots replace each other in the order of their openings. An opening is named by the ticket
that its call takes. -/
structure Replaces (k : Kind) : Prop where
  reply : ∀ before p between r n,
    rootFrom k (repliesTo ((fresh k).after before).issued between ++ [r]) = some n →
    ((fresh k).after (before ++ .open p :: between)).step
        (.reply ((fresh k).after before).issued r) =
      if Undisturbed between then
        ((fresh k).after (before ++ .open p :: between)).rooted ((fresh k).after before).issued n
      else
        ((fresh k).after (before ++ .open p :: between)).dropped ((fresh k).after before).issued
  order : ∀ inputs, ((fresh k).openings inputs).Pairwise (· < ·) ∧
    ((fresh k).installs inputs).Pairwise (· < ·) ∧
    ∀ t ∈ (fresh k).installs inputs, t ∈ (fresh k).openings inputs
  closed : ∀ before later, ∀ t ∈ ((fresh k).after (before ++ [.close])).installs later,
    t ∉ (fresh k).openings before
  root : ∀ inputs, ((fresh k).after inputs).root = ((fresh k).history inputs).foldl rootSince none

theorem afterReady (k : Kind) (inputs : List Input) : ((fresh k).after inputs).Ready 0 :=
  afterKeeps (P := fun s => s.Ready 0) (fun moves ready => readyKeeps ready moves) (freshReady k)
    inputs

theorem rootsReplaced (k : Kind) : Replaces k := by
  refine ⟨fun before p between r n made => openReply k before p between made, ?_, ?_, ?_⟩
  · intro inputs
    refine ⟨(openingsInOrder _ inputs).2, (installsInOrder (freshReady k) inputs).2, ?_⟩
    intro t mem
    rcases installsOpened (fresh k) inputs t mem with ⟨g, p, waits, _⟩ | opened
    · simp [fresh] at waits
    · exact opened
  · intro before later t mem opened
    have closed := readyClosed (afterReady k before) (stepMoves _ .close)
    rw [afterSnoc] at mem
    have low := (installsInOrder closed later).1 t mem
    exact absurd (openingsIssued (fresh k) before t opened) (Nat.not_lt_of_le low)
  · intro inputs
    exact afterRoot (fresh k) inputs

/- Two openings whose replies overtake each other: the first one ends without a root. -/
example :
    (fresh .call).installs
      [.open ⟨"file:///p.cpp", ⟨0, 0⟩⟩, .open ⟨"file:///p.cpp", ⟨1, 0⟩⟩,
        .reply 1 (.ok (.object [("id", .int 1), ("name", .text "B"), ("numChildren", .int 0)])),
        .reply 0 (.ok (.object [("id", .int 2), ("name", .text "A"), ("numChildren", .int 0)]))] =
      [1] := rfl

end Session
end SymbolHierarchy
