import SymbolHierarchy.Proofs.Session.Replacement

/-! How operations end. A reply to an opening ends it, or has it ask once more; what it ends
with is told by its replies alone. What ends in error leaves all that a view shows as it was. -/
namespace SymbolHierarchy

def Outcome.fails : Outcome → Bool
  | .opened (.error _) => true
  | .listed (.error _) => true
  | _ => false

def Input.viewed? : Input → Option Handle
  | .children node => node
  | _ => none

def Input.listed? : Input → Option Handle
  | .expand h => some h
  | .children node => node
  | _ => none

def Pending.next (k : Kind) (p : Pending) (r : Reply) : Option Pending :=
  match p with
  | .derivedRoot g => (Session.readAs k r).map fun n => .baseRoot g (n.withDirection true)
  | _ => none

namespace Session

inductive Completes : Kind → List Reply → Prop
  | call (r : Reply) : Completes .call [r]
  | derived {r} (bad : readAs .inheritance r = none) : Completes .inheritance [r]
  | base {r r' n} (read : readAs .inheritance r = some n) : Completes .inheritance [r, r']

/- The replies for which there is no root: a request failed, a payload was refused, or there are
supertypes and the subtypes that are reported were not carried. -/
inductive Failed (k : Kind) (rs : List Reply) : Prop
  | request {f} (mem : .error f ∈ rs)
  | schema {v e} (mem : .ok v ∈ rs) (refused : Node.ofWire k.model v = .error e)
  | apart {r r' derived base} (all : rs = [r, r']) (first : readAs k r = some derived)
      (second : readAs k r' = some base) (missing : derived.isMaterialized = false)
      (supertypes : base.numChildren ≠ 0)

theorem readAsDecode (s : Session) (r : Reply) : readAs s.kind r = (s.decode r).toOption := by
  cases r with
  | error e => rfl
  | ok v =>
    cases wire : Node.ofWire s.kind.model v <;>
      simp [readAs, decode, Except.toOption, wire, bind, Except.bind]

theorem readAsNone {k : Kind} {r : Reply} :
    readAs k r = none ↔
      (∃ f, r = .error f) ∨ ∃ v e, r = .ok v ∧ Node.ofWire k.model v = .error e := by
  cases r with
  | error f => simp [readAs, Except.toOption]
  | ok v => cases wire : Node.ofWire k.model v <;> simp [readAs, Except.toOption, wire]

theorem failedRead {k : Kind} {rs : List Reply} {r : Reply} (mem : r ∈ rs)
    (bad : readAs k r = none) : Failed k rs := by
  rcases readAsNone.mp bad with ⟨f, rfl⟩ | ⟨v, e, rfl, refused⟩
  · exact .request mem
  · exact .schema mem refused

theorem settleOwn (s : Session) (t : Ticket) : (s.settle t).pending? t = none := by
  simp [pending?, settle]

theorem replyPending {s s' : Session} {t : Ticket} {r : Reply} {es}
    (moves : Moves s (.reply t r) s' es) :
    s'.pending? t = (s.pending? t).bind fun p => p.next s.kind r := by
  cases moves with
  | absent asks | atHand asks | fetches asks | refuses asks => cases asks
  | unexpected stray => rw [stray]; rfl
  | enters waits read =>
    rw [awaitOwn _ fun w mem => (settleWaits mem).2, waits, Option.bind_some, Pending.next,
      readAsDecode, read]
    rfl
  | installs waits built =>
    rw [waits]
    cases built <;> exact settleOwn s t
  | discards waits built =>
    rw [settleOwn, waits]
    cases built <;> rfl
  | @fails _ _ p e waits failed =>
    rw [settleOwn, waits, Option.bind_some]
    cases failed with
    | refused bad => cases p <;> simp [Pending.next, readAsDecode, bad, Except.toOption]
    | unmaterialized => rfl
  | grows waits =>
    rw [waits]
    exact settleOwn s t

theorem openingEnds {s s' : Session} {t : Ticket} {r : Reply} {es} {p : Pending}
    (moves : Moves s (.reply t r) s' es) (waits : s.pending? t = some p)
    (opening : p.generation?.isSome) (last : p.next s.kind r = none) :
    ∃ res, (∀ res', .finished t (.opened res') ∈ es ↔ res' = res) ∧
      ((∃ e, Fails s r p e ∧ res = .error e) ∨ ∃ g n h, Builds s r p g n ∧ res = .ok h) := by
  cases moves with
  | absent asks | atHand asks | fetches asks | refuses asks => cases asks
  | unexpected stray => simp [stray] at waits
  | enters held read =>
    cases held.symm.trans waits
    simp [Pending.next, readAsDecode, read, Except.toOption] at last
  | installs held built =>
    cases held.symm.trans waits
    exact ⟨_, by simp, .inr ⟨_, _, some s.forest.length, built, rfl⟩⟩
  | discards held built =>
    cases held.symm.trans waits
    exact ⟨_, by simp, .inr ⟨_, _, none, built, rfl⟩⟩
  | @fails _ _ q e held failed =>
    cases held.symm.trans waits
    refine ⟨.error e, ?_, .inl ⟨e, failed, rfl⟩⟩
    cases p with
    | expansion => simp [Pending.generation?] at opening
    | _ => simp [Pending.failure]
  | grows held =>
    cases held.symm.trans waits
    simp [Pending.generation?] at opening

theorem failsNotBuilds {s : Session} {r p e g n} (failed : Fails s r p e)
    (built : Builds s r p g n) : False := by
  cases failed with
  | refused bad => cases built <;> simp_all
  | unmaterialized read apart => cases built; simp_all

theorem failsFirst {s : Session} {r : Reply} {k : Kind} {g : Nat} :
    (∃ e, Fails s r (k.firstWait g) e) ↔ readAs s.kind r = none := by
  rw [readAsDecode]
  refine ⟨?_, ?_⟩
  · rintro ⟨e, failed⟩
    have bad : s.decode r = .error e := by
      cases k <;> cases failed <;> assumption
    rw [bad]
    rfl
  · intro unread
    cases read : s.decode r with
    | ok n => simp [read, Except.toOption] at unread
    | error e => exact ⟨e, .refused read⟩

theorem failsJoining {s : Session} {r : Reply} {g : Nat} {entry : Node} :
    (∃ e, Fails s r (.baseRoot g entry) e) ↔
      readAs s.kind r = none ∨
        ∃ base why, readAs s.kind r = some base ∧ entry.merge base = .error why := by
  rw [readAsDecode]
  refine ⟨?_, ?_⟩
  · rintro ⟨e, failed⟩
    cases failed with
    | refused bad => exact .inl (by rw [bad]; rfl)
    | unmaterialized read apart => exact .inr ⟨_, _, by rw [read]; rfl, apart⟩
  · intro unfit
    cases read : s.decode r with
    | error e => exact ⟨e, .refused read⟩
    | ok n =>
      rcases unfit with unread | ⟨base, why, told, apart⟩
      · simp [read, Except.toOption] at unread
      · have same : n = base := by simpa [read, Except.toOption] using told
        exact ⟨_, .unmaterialized read (same ▸ apart)⟩

theorem mergeFails {derived base : Node} :
    (∃ why, (derived.withDirection true).merge base = .error why) ↔
      derived.isMaterialized = false ∧ base.numChildren ≠ 0 := by
  have same : (derived.withDirection true).isMaterialized = derived.isMaterialized := by
    simp [Node.isMaterialized]
  by_cases leaf : base.numChildren = 0
  · simp [Node.merge, leaf]
  · cases full : derived.isMaterialized <;> simp [Node.merge, leaf, same, full]

theorem failedOne {k : Kind} {r : Reply} : Failed k [r] ↔ readAs k r = none := by
  refine ⟨?_, failedRead List.mem_cons_self⟩
  intro failed
  cases failed with
  | request mem => exact readAsNone.mpr (.inl ⟨_, (List.mem_singleton.mp mem).symm⟩)
  | schema mem refused =>
    exact readAsNone.mpr (.inr ⟨_, _, (List.mem_singleton.mp mem).symm, refused⟩)
  | apart all => simp at all

theorem failedTwo {k : Kind} {r r' : Reply} {n : Node} (read : readAs k r = some n) :
    Failed k [r, r'] ↔
      readAs k r' = none ∨ ∃ base why, readAs k r' = some base ∧
        (n.withDirection true).merge base = .error why := by
  have second : ∀ {x}, x ∈ [r, r'] → readAs k x = none → readAs k r' = none := by
    intro x mem bad
    simp only [List.mem_cons, List.not_mem_nil, or_false] at mem
    rcases mem with rfl | rfl
    · simp [read] at bad
    · exact bad
  refine ⟨?_, ?_⟩
  · intro failed
    cases failed with
    | request mem => exact .inl (second mem (readAsNone.mpr (.inl ⟨_, rfl⟩)))
    | schema mem refused => exact .inl (second mem (readAsNone.mpr (.inr ⟨_, _, rfl, refused⟩)))
    | apart all first later missing supertypes =>
      cases all
      cases first.symm.trans read
      obtain ⟨why, apart⟩ := mergeFails.mpr ⟨missing, supertypes⟩
      exact .inr ⟨_, why, later, apart⟩
  · rintro (bad | ⟨base, why, told, apart⟩)
    · exact failedRead (List.mem_cons_of_mem _ List.mem_cons_self) bad
    · obtain ⟨missing, supertypes⟩ := mergeFails.mp ⟨why, apart⟩
      exact .apart rfl read told missing supertypes

def awaited (k : Kind) (p : Option Pending) (rs : List Reply) : Option Pending :=
  rs.foldl (fun p r => p.bind fun p => p.next k r) p

theorem completesFailed {k : Kind} {rs : List Reply} {r : Reply} (g : Nat)
    (completes : Completes k (rs ++ [r])) :
    ∃ p, awaited k (some (k.firstWait g)) rs = some p ∧ p.generation?.isSome ∧
      p.next k r = none ∧
      ∀ s : Session, s.kind = k → ((∃ e, Fails s r p e) ↔ Failed k (rs ++ [r])) := by
  generalize whole : rs ++ [r] = all at completes ⊢
  cases completes with
  | call last =>
    obtain ⟨rfl, same⟩ := List.append_inj' (whole.trans (List.nil_append [last]).symm) rfl
    cases same
    refine ⟨_, rfl, rfl, rfl, ?_⟩
    intro s kind
    rw [failsFirst, failedOne, kind]
  | @derived last bad =>
    obtain ⟨rfl, same⟩ := List.append_inj' (whole.trans (List.nil_append [last]).symm) rfl
    cases same
    refine ⟨_, rfl, rfl, by simp [Kind.firstWait, Pending.next, bad], ?_⟩
    intro s kind
    rw [failsFirst, failedOne, kind]
  | @base first last n read =>
    obtain ⟨rfl, same⟩ := List.append_inj' (whole.trans (List.singleton_append (x := first)
      (l := [last])).symm) rfl
    cases same
    refine ⟨.baseRoot g (n.withDirection true), ?_, rfl, rfl, ?_⟩
    · simp [awaited, Kind.firstWait, Pending.next, read]
    · intro s kind
      rw [failsJoining, failedTwo read, kind]

/- A step that does no more than reveal the node that a view asks about. -/
structure Leaves (s : Session) (i : Input) (s' : Session) (es : List Effect) : Prop where
  stays : i ≠ .close
  root : s'.root = s.root
  quiet : Effect.announce ∉ es
  forest : s'.forest = i.viewed?.elim s.forest s.forest.shown

theorem movesFailed {s i s' es t o} (moves : Moves s i s' es) (mem : .finished t o ∈ es)
    (fails : o.fails = true) : s.Leaves i s' es := by
  cases moves with
  | closes => cases active : s.isActive <;> simp [active] at mem
  | refuses asks => cases asks <;> exact ⟨nofun, rfl, by simp, rfl⟩
  | fails => exact ⟨nofun, rfl, by simp, rfl⟩
  | idle => simp_all [Outcome.fails]
  | listsRoot => simp_all [Outcome.fails]
  | atHand => simp_all [Outcome.fails]
  | installs => simp_all [Outcome.fails]
  | discards => simp_all [Outcome.fails]
  | @grows _ _ _ under =>
    cases told : s.root.isSome && s.root == under <;> simp_all [Outcome.fails]
  | _ => simp at mem

theorem callWaits {s i s' es h p} (moves : Moves s i s' es)
    (young : ∀ w ∈ s.waiting, w.1 < s.issued) (lists : i.listed? = some h)
    (waits : s'.pending? s.issued = some p) : s.Leaves i s' es := by
  have new : ∀ {q}, (s.issued, q) ∉ s.waiting := fun old => Nat.lt_irrefl _ (young _ old)
  have there := pendingWaits waits
  cases moves with
  | fetches asks => cases asks <;> exact ⟨nofun, rfl, by simp, rfl⟩
  | idle | listsRoot | absent | atHand | refuses => exact absurd there new
  | _ => cases lists

theorem replyWaits {s t r s' es o} (moves : Moves s (.reply t r) s' es)
    (mem : .finished t o ∈ es) : ∃ p, s.pending? t = some p := by
  cases moves with
  | unexpected => cases mem
  | enters waits => exact ⟨_, waits⟩
  | installs waits => exact ⟨_, waits⟩
  | discards waits => exact ⟨_, waits⟩
  | fails waits => exact ⟨_, waits⟩
  | grows waits => exact ⟨_, waits⟩
  | absent asks | atHand asks | fetches asks | refuses asks => cases asks

end Session
end SymbolHierarchy
