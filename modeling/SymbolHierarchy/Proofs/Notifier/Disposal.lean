import Mathlib.Data.List.Induction
import SymbolHierarchy.Notifier.Basic

/-! Which subscription a disposer ends. A disposer looks for its listener and not for its own
subscription, so it ends the oldest one of that listener that stands, also when it is called again.
Of each listener the latest subscriptions stand, as many as the calls have left. They are those
whose own disposers are still to be called as long as every disposer finds its own subscription
first, or none. -/
namespace SymbolHierarchy.Notifier

variable {α : Type}

/- A subscription, or a call of the disposer that a subscription gave; they are numbered from zero. -/
inductive Call (α : Type)
  | subscribe (listener : α)
  | dispose (number : Nat)
  deriving DecidableEq, Repr

def subscribed (calls : List (Call α)) : List α :=
  calls.filterMap fun
    | .subscribe a => some a
    | .dispose _ => none

theorem subscribedSnoc (calls : List (Call α)) (a : α) :
    subscribed (calls ++ [.subscribe a]) = subscribed calls ++ [a] := by
  simp [subscribed]

theorem subscribedStill (calls : List (Call α)) (k : Nat) :
    subscribed (calls ++ [.dispose k]) = subscribed calls := by
  simp [subscribed]

section Held

variable {k n : Nat}

def held (calls : List (Call α)) (n k : Nat) : Option α :=
  if n ≤ k then (subscribed calls)[k - n]? else none

theorem heldOwn (a : α) (rest : List (Call α)) (k : Nat) :
    held (.subscribe a :: rest) k k = some a := by
  simp [held, subscribed]

theorem heldPast (rest : List (Call α)) (k : Nat) : held rest (k + 1) k = none :=
  if_neg (Nat.not_succ_le_self k)

theorem heldBehind (a : α) (rest : List (Call α)) (other : k ≠ n) :
    held (.subscribe a :: rest) n k = held rest (n + 1) k := by
  unfold held
  by_cases behind : n + 1 ≤ k
  · obtain ⟨d, rfl⟩ := Nat.exists_eq_add_of_le behind
    have place : n + 1 + d - n = d + 1 := by omega
    rw [if_pos behind, if_pos (Nat.le_of_succ_le behind), place, Nat.add_sub_cancel_left]
    rfl
  · rw [if_neg behind, if_neg (by omega)]

theorem heldFirst (calls : List (Call α)) (k : Nat) : held calls 0 k = (subscribed calls)[k]? :=
  if_pos (Nat.zero_le k)

end Held

inductive Dropped : Option α → List α → List α → Prop
  | still (own : Option α) (l : List α) : Dropped own l l
  | out (front : List α) (a : α) (back : List α) :
      Dropped (some a) (front ++ a :: back) (front ++ back)

section Dropped

variable {l m : List α} {own : Option α}

theorem Dropped.cons (dropped : Dropped own l m) (a : α) : Dropped own (a :: l) (a :: m) := by
  cases dropped with
  | still => exact .still _ _
  | out front b back => exact .out (a :: front) b back

theorem Dropped.same (dropped : Dropped none l m) : l = m := by
  cases dropped
  rfl

variable {a : α} [DecidableEq α]

theorem Dropped.few (dropped : Dropped (some a) l m) (b : α) :
    (l.erase a).count b ≤ m.count b := by
  cases dropped with
  | still => exact List.erase_sublist.count_le b
  | out front _ back =>
    rw [List.count_erase, List.count_append, List.count_append, List.count_cons]
    omega

theorem Dropped.first (dropped : Dropped (some a) l m) (alone : a ∉ m) : l.erase a = m := by
  cases dropped with
  | still => exact List.erase_of_not_mem alone
  | out front _ back =>
    rw [List.mem_append, not_or] at alone
    rw [List.erase_append_right _ alone.1, List.erase_cons_head]

end Dropped

variable [DecidableEq α]

structure Registry (α : Type) where
  notifier : Notifier α := {}
  disposers : List α := []

def Registry.step (r : Registry α) : Call α → Registry α
  | .subscribe a => ⟨r.notifier.subscribe a, r.disposers ++ [a]⟩
  | .dispose k =>
    match r.disposers[k]? with
    | some a => { r with notifier := r.notifier.dispose a }
    | none => r

def after (calls : List (Call α)) : Registry α := calls.foldl Registry.step {}

def listening (calls : List (Call α)) : List α := (after calls).notifier.listeners

/- The listeners of those subscriptions whose own disposers are not called behind them; the first
subscription in the list has the number `n`. -/
def undisposed (n : Nat) : List (Call α) → List α
  | [] => []
  | .subscribe a :: rest =>
    if .dispose n ∈ rest then undisposed (n + 1) rest else a :: undisposed (n + 1) rest
  | .dispose _ :: rest => undisposed n rest

def left (a : α) (before : List α) (n : Nat) : List (Call α) → Nat
  | [] => n
  | .subscribe b :: rest => left a (before ++ [b]) (if b = a then n + 1 else n) rest
  | .dispose k :: rest => left a before (if before[k]? = some a then n - 1 else n) rest

def latest (room : α → Nat) : List α → List α
  | [] => []
  | a :: rest => if rest.count a < room a then a :: latest room rest else latest room rest

section Latest

variable {room less : α → Nat} {a : α} {l : List α}

theorem latestSnoc (more : room a = less a + 1) (others : ∀ b, b ≠ a → room b = less b) :
    latest room (l ++ [a]) = latest less l ++ [a] := by
  induction l with
  | nil => simp [latest, more]
  | cons b rest ih =>
    by_cases same : b = a
    · subst same
      simp only [List.cons_append, latest, List.count_append, List.count_singleton_self, more,
        Nat.add_lt_add_iff_right, ih]
      split <;> rfl
    · have other : [a].count b = 0 := List.count_eq_zero.mpr (by simpa using same)
      simp only [List.cons_append, latest, List.count_append, other, others b same, Nat.add_zero, ih]
      split <;> rfl

theorem latestEnough (wide : l.count a ≤ less a) (more : less a ≤ room a)
    (others : ∀ b, b ≠ a → room b = less b) : latest room l = latest less l := by
  induction l with
  | nil => rfl
  | cons b rest ih =>
    by_cases same : b = a
    · subst same
      rw [List.count_cons_self] at wide
      have fits : rest.count b < less b := wide
      simp only [latest, if_pos fits, if_pos (Nat.lt_of_lt_of_le fits more),
        ih (Nat.le_of_lt fits)]
    · rw [List.count_cons_of_ne same] at wide
      simp only [latest, others b same, ih wide]

theorem latestErase (room less : α → Nat) (own : less a = room a - 1)
    (others : ∀ b, b ≠ a → room b = less b) (bound : room a ≤ l.count a) :
    (latest room l).erase a = latest less l := by
  induction l with
  | nil => rfl
  | cons b rest ih =>
    by_cases same : b = a
    · subst same
      rw [List.count_cons_self] at bound
      by_cases fits : rest.count b < room b
      · have short : ¬ rest.count b < less b := by omega
        simp only [latest, if_pos fits, if_neg short, List.erase_cons_head]
        exact latestEnough (by omega) (by omega) others
      · have short : ¬ rest.count b < less b := by omega
        simp only [latest, if_neg fits, if_neg short]
        exact ih (by omega)
    · rw [List.count_cons_of_ne same] at bound
      have apart : ¬ (b == a) = true := by simpa using same
      simp only [latest, others b same]
      split
      · rw [List.erase_cons_tail apart, ih bound]
      · exact ih bound

end Latest

section Calls

variable {calls : List (Call α)} {a : α} {k n : Nat}

theorem afterSnoc (calls : List (Call α)) (c : Call α) :
    after (calls ++ [c]) = (after calls).step c := by
  simp [after]

theorem disposersAfter (calls : List (Call α)) : (after calls).disposers = subscribed calls := by
  induction calls using List.reverseRecOn with
  | nil => rfl
  | append_singleton calls c ih =>
    rw [afterSnoc]
    cases c with
    | subscribe a => rw [subscribedSnoc, ← ih]; rfl
    | dispose k =>
      rw [subscribedStill, ← ih, Registry.step]
      split <;> rfl

theorem listeningSubscribe (calls : List (Call α)) (a : α) :
    listening (calls ++ [.subscribe a]) = listening calls ++ [a] := by
  rw [listening, afterSnoc]
  rfl

theorem listeningDispose (holds : (subscribed calls)[k]? = some a) :
    listening (calls ++ [.dispose k]) = (listening calls).erase a := by
  rw [listening, afterSnoc, Registry.step, disposersAfter, holds]
  rfl

theorem listeningNone (holds : (subscribed calls)[k]? = none) :
    listening (calls ++ [.dispose k]) = listening calls := by
  rw [listening, afterSnoc, Registry.step, disposersAfter, holds]
  rfl

theorem leftAppend (a : α) (before : List α) (n : Nat) (front back : List (Call α)) :
    left a before n (front ++ back) =
      left a (before ++ subscribed front) (left a before n front) back := by
  induction front generalizing before n with
  | nil => simp [left, subscribed]
  | cons c rest ih =>
    cases c with
    | subscribe b => simp [left, ih, subscribed]
    | dispose k => simp [left, ih, subscribed]

theorem leftBound (a : α) (before : List α) (n : Nat) (calls : List (Call α)) :
    left a before n calls ≤ n + (subscribed calls).count a := by
  induction calls generalizing before n with
  | nil => simp [left]
  | cons c rest ih =>
    cases c with
    | subscribe b =>
      have bound := ih (before ++ [b]) (if b = a then n + 1 else n)
      by_cases same : b = a <;> simp [left, subscribed, same] at bound ⊢ <;> omega
    | dispose k =>
      have bound := ih before (if before[k]? = some a then n - 1 else n)
      by_cases holds : before[k]? = some a <;> simp [left, subscribed, holds] at bound ⊢ <;> omega

theorem listeningLatest (calls : List (Call α)) :
    listening calls = latest (fun a => left a [] 0 calls) (subscribed calls) := by
  induction calls using List.reverseRecOn with
  | nil => rfl
  | append_singleton calls c ih =>
    cases c with
    | subscribe a =>
      have grown : ∀ b, left b [] 0 (calls ++ [.subscribe a]) =
          if a = b then left b [] 0 calls + 1 else left b [] 0 calls := by
        intro b
        rw [leftAppend]
        rfl
      rw [listeningSubscribe, subscribedSnoc, ih]
      refine (latestSnoc ?_ ?_).symm
      · rw [grown, if_pos rfl]
      · intro b other
        rw [grown, if_neg (Ne.symm other)]
    | dispose k =>
      have shrunk : ∀ b, left b [] 0 (calls ++ [.dispose k]) =
          if (subscribed calls)[k]? = some b then left b [] 0 calls - 1 else left b [] 0 calls := by
        intro b
        rw [leftAppend]
        rfl
      rw [subscribedStill]
      cases holds : (subscribed calls)[k]? with
      | none =>
        rw [listeningNone holds, ih]
        congr 1
        funext b
        rw [shrunk, holds, if_neg nofun]
      | some a =>
        rw [listeningDispose holds, ih]
        have bound := leftBound a [] 0 calls
        rw [Nat.zero_add] at bound
        refine latestErase _ _ ?_ ?_ bound
        · rw [shrunk, if_pos holds]
        · intro b other
          rw [shrunk, holds, if_neg fun own => other (Option.some.inj own).symm]

theorem undisposedGone {rest : List (Call α)} (gone : .dispose n ∈ rest) (a : α) :
    undisposed n (.subscribe a :: rest) = undisposed (n + 1) rest := if_pos gone

theorem undisposedStands {rest : List (Call α)} (stands : .dispose n ∉ rest) (a : α) :
    undisposed n (.subscribe a :: rest) = a :: undisposed (n + 1) rest := if_neg stands

theorem undisposedSnoc (calls : List (Call α)) (n k : Nat) :
    Dropped (held calls n k) (undisposed n calls) (undisposed n (calls ++ [.dispose k])) := by
  induction calls generalizing n with
  | nil => exact .still _ _
  | cons c rest ih =>
    cases c with
    | dispose j => exact ih n
    | subscribe a =>
      have later := ih (n + 1)
      rw [List.cons_append]
      by_cases own : k = n
      · subst own
        rw [heldPast] at later
        rw [heldOwn, undisposedGone (List.mem_concat_self), ← later.same]
        by_cases gone : .dispose k ∈ rest
        · rw [undisposedGone gone]
          exact .still _ _
        · rw [undisposedStands gone]
          exact .out [] a _
      · rw [heldBehind a rest own]
        by_cases gone : .dispose n ∈ rest
        · rw [undisposedGone gone, undisposedGone (List.mem_append_left _ gone)]
          exact later
        · have stands : .dispose n ∉ rest ++ [.dispose k] := by
            rw [List.mem_append, not_or]
            refine ⟨gone, fun last => ?_⟩
            exact own (Call.dispose.inj (List.mem_singleton.mp last)).symm
          rw [undisposedStands gone, undisposedStands stands]
          exact later.cons a

theorem undisposedDispose (calls : List (Call α)) (k : Nat) :
    Dropped (subscribed calls)[k]? (undisposed 0 calls)
      (undisposed 0 (calls ++ [.dispose k])) := by
  rw [← heldFirst]
  exact undisposedSnoc calls 0 k

theorem undisposedSubscribe (calls : List (Call α)) (n : Nat) (a : α) :
    undisposed n (calls ++ [.subscribe a]) = undisposed n calls ++ [a] := by
  induction calls generalizing n with
  | nil => simp [undisposed]
  | cons c rest ih =>
    cases c with
    | dispose j => exact ih n
    | subscribe b =>
      simp only [List.cons_append, undisposed, List.mem_append, List.mem_singleton, reduceCtorEq,
        or_false, ih]
      split <;> rfl

theorem listeningFew (calls : List (Call α)) (a : α) :
    (listening calls).count a ≤ (undisposed 0 calls).count a := by
  induction calls using List.reverseRecOn with
  | nil => exact Nat.le_refl 0
  | append_singleton calls c ih =>
    cases c with
    | subscribe b =>
      rw [listeningSubscribe, undisposedSubscribe, List.count_append, List.count_append]
      exact Nat.add_le_add_right ih _
    | dispose k =>
      have dropped := undisposedDispose calls k
      cases holds : (subscribed calls)[k]? with
      | none =>
        rw [holds] at dropped
        rwa [listeningNone holds, ← dropped.same]
      | some b =>
        rw [holds] at dropped
        have kept := dropped.few a
        rw [List.count_erase] at kept
        rw [listeningDispose holds, List.count_erase]
        omega

theorem listeningExactly (calls : List (Call α)) :
    (∀ before, before <+: calls → listening before = undisposed 0 before) ↔
      ∀ before k a, before ++ [.dispose k] <+: calls → (subscribed before)[k]? = some a →
        (undisposed 0 before).erase a = undisposed 0 (before ++ [.dispose k]) := by
  constructor
  · intro right before k a inside holds
    have earlier := right before ((List.prefix_append _ _).trans inside)
    rw [← earlier, ← right _ inside, listeningDispose holds]
  · intro fair before inside
    induction before using List.reverseRecOn with
    | nil => rfl
    | append_singleton before c ih =>
      have earlier := ih ((List.prefix_append _ _).trans inside)
      cases c with
      | subscribe a => rw [listeningSubscribe, undisposedSubscribe, earlier]
      | dispose k =>
        cases holds : (subscribed before)[k]? with
        | some a => rw [listeningDispose holds, earlier, fair before k a inside holds]
        | none =>
          have dropped := undisposedDispose before k
          rw [holds] at dropped
          rw [listeningNone holds, earlier, dropped.same]

theorem aloneFair (holds : (subscribed calls)[k]? = some a)
    (alone : a ∉ undisposed 0 (calls ++ [.dispose k])) :
    (undisposed 0 calls).erase a = undisposed 0 (calls ++ [.dispose k]) := by
  have dropped := undisposedDispose calls k
  rw [holds] at dropped
  exact dropped.first alone

theorem againExactly (holds : (subscribed calls)[k]? = some a) :
    listening (calls ++ [.dispose k, .dispose k]) = listening (calls ++ [.dispose k]) ↔
      (listening calls).count a ≤ 1 := by
  have still : (subscribed (calls ++ [.dispose k]))[k]? = some a := by
    rw [subscribedStill, holds]
  have twice : calls ++ [.dispose k, .dispose k] = (calls ++ [.dispose k]) ++ [.dispose k] := by
    rw [List.append_assoc]
    rfl
  rw [twice, listeningDispose still, listeningDispose holds, List.erase_eq_self_iff,
    ← List.count_eq_zero, List.count_erase_self]
  omega

end Calls

/- What any calls make of the listeners, and where that is what they should make of them. -/
structure Accounted (calls : List (Call α)) : Prop where
  latest : listening calls = latest (fun a => left a [] 0 calls) (subscribed calls)
  few : ∀ a, (listening calls).count a ≤ (undisposed 0 calls).count a
  exactly : (∀ before, before <+: calls → listening before = undisposed 0 before) ↔
    ∀ before k a, before ++ [.dispose k] <+: calls → (subscribed before)[k]? = some a →
      (undisposed 0 before).erase a = undisposed 0 (before ++ [.dispose k])
  alone : (∀ before k a, before ++ [.dispose k] <+: calls → (subscribed before)[k]? = some a →
      a ∉ undisposed 0 (before ++ [.dispose k])) → listening calls = undisposed 0 calls
  again : ∀ k a, (subscribed calls)[k]? = some a →
    (listening (calls ++ [.dispose k, .dispose k]) = listening (calls ++ [.dispose k]) ↔
      (listening calls).count a ≤ 1)

theorem disposersAccounted (calls : List (Call α)) : Accounted calls where
  latest := listeningLatest calls
  few := listeningFew calls
  exactly := listeningExactly calls
  alone lonely := by
    have fair := (listeningExactly calls).mpr fun before k a inside holds =>
      aloneFair holds (lonely before k a inside holds)
    exact fair calls (List.prefix_refl calls)
  again _ _ := againExactly

def twiceDisposed : List (Call String) :=
  [.subscribe "f", .subscribe "f", .dispose 0, .dispose 0]

theorem othersEnded : ¬ ∀ calls : List (Call String), listening calls = undisposed 0 calls := by
  intro right
  exact absurd (right twiceDisposed) (by decide)

end SymbolHierarchy.Notifier
