import SymbolHierarchy.Proofs.Session.Direction

/-! What an expansion leaves behind when it returns. What it lists is what the node holds from then
on, and a further expansion lists the same at once, with no request. A reply that reports children
and carries none is the one exception: nothing is listed, and the node asks again as before. -/
namespace SymbolHierarchy

namespace Session

inductive Expands (s : Session) : Input → Ticket → Handle → Prop
  | asked {i h f} (asks : Asks s i h f) : Expands s i s.issued h
  | replied {t r h under} (waits : s.pending? t = some (.expansion h under)) :
      Expands s (.reply t r) t h

def Returns (s : Session) (i : Input) (h : Handle) (hs : List Handle) : Prop :=
  ∃ t, Expands s i t h ∧ .finished t (.listed (.ok hs)) ∈ (s.step i).2

structure Full (s : Session) (h : Handle) (hs : List Handle) : Prop where
  count : s.forest[h]?.map Cell.numChildren = some (hs.length : Int)
  held : s.forest.childrenAt h = hs
  materialized : s.forest.fullAt h = true
  again : s.step (.expand h) = (s.issue, [.finished s.issued (.listed (.ok hs))])

/- A node reports children and holds none, so that it asks for them. -/
structure Hollow (s : Session) (h : Handle) : Prop where
  held : s.forest.childrenAt h = []
  bare : s.forest.fullAt h = false
  asks : ∃ params, s.step (.expand h) =
    (s.issue.await s.issued (.expansion h s.root), [.request s.issued params])

section Again

variable {s : Session} {h : Handle} {c : Cell}

theorem fullCell (found : s.forest[h]? = some c) (full : c.isMaterialized = true) :
    s.Full h c.children where
  count := by
    have whole : (c.children.length : Int) = c.numChildren := by
      simpa [Cell.isMaterialized] using full
    rw [found, whole]
    rfl
  held := Forest.childrenOf found
  materialized := by simp [Forest.fullAt, found, full]
  again := by simp [step, expand, listChildren, issue, found, full]

theorem hollowCell {params : Json} (found : s.forest[h]? = some c) (none : c.children = [])
    (bare : c.isMaterialized = false)
    (known : s.kind.expansionParams c.symbol c.facet = .ok params) : s.Hollow h where
  held := (Forest.childrenOf found).trans none
  bare := by simp [Forest.fullAt, found, bare]
  asks := ⟨params, by simp [step, expand, listChildren, issue, found, bare, known]⟩

theorem expansionKnown (k : Kind) (inputs : List Input)
    (found : ((fresh k).after inputs).forest[h]? = some c) :
    ∃ params, ((fresh k).after inputs).kind.expansionParams c.symbol c.facet = .ok params := by
  rw [afterKind]
  cases k with
  | call => exact ⟨_, rfl⟩
  | inheritance =>
    obtain ⟨g, _, steered⟩ := afterSteered freshSteered inputs
    obtain ⟨d, facet⟩ := steered.directed h c.facet (by
      rw [Forest.facetAt, Forest.identityAt, found]
      rfl)
    exact ⟨_, by rw [facet]; rfl⟩

end Again

section Grown

variable {s : Session} {h : Nat} {n : Node}

theorem grownTarget {c : Cell} (found : s.forest[h]? = some c) : (s.grown h n)[h]? =
    some { c with
      numChildren := n.numChildren
      children := placesFrom s.forest.length (s.newChildren h n) } := by
  have there : h < s.forest.length := (List.getElem?_eq_some_iff.mp found).1
  rw [grown, Forest.adoptAt, Forest.plantAllKeeps _ _ _ there, found]
  simp

theorem grownCount (there : h < s.forest.length) :
    (s.grown h n)[h]?.map Cell.numChildren = some n.numChildren := by
  rw [grownTarget (List.getElem?_eq_getElem there)]
  rfl

theorem grownCell (there : h < s.forest.length) : ∃ c, (s.grown h n)[h]? = some c ∧
    c.children = placesFrom s.forest.length (s.newChildren h n) ∧
    c.isMaterialized = n.isMaterialized := by
  refine ⟨_, grownTarget (List.getElem?_eq_getElem there), rfl, ?_⟩
  simp only [Cell.isMaterialized, placesCount, newChildren, adoptedCount, Node.isMaterialized]

end Grown

inductive Returned (s : Session) (h : Handle) (hs : List Handle) : Input → Session → Prop
  | held {i s' c} (asked : i = .expand h ∨ i = .children (some h)) (found : s'.forest[h]? = some c)
      (full : c.isMaterialized = true) (same : c.children = hs) : Returned s h hs i s'
  | taken {t r n s'} (there : h < s.forest.length) (read : s.decode r = .ok n)
      (grown : s'.forest = s.grown h n)
      (same : placesFrom s.forest.length (s.newChildren h n) = hs) :
      Returned s h hs (.reply t r) s'

theorem asksSame {s : Session} {i h h' f f'} (one : Asks s i h f) (other : Asks s i h' f') :
    h' = h := by
  cases one <;> cases other <;> rfl

theorem returnsReturned {s : Session} {i h hs} (grounded : s.Grounded)
    (returns : s.Returns i h hs) : Returned s h hs i (s.step i).1 := by
  obtain ⟨t, expands, mem⟩ := returns
  have moves := stepMoves s i
  generalize (s.step i).1 = s', (s.step i).2 = es at moves mem
  cases expands with
  | asked asks =>
    cases moves with
    | atHand own found full =>
      obtain rfl := asksSame asks own
      simp only [List.mem_singleton, Effect.finished.injEq, Outcome.listed.injEq, Except.ok.injEq,
        true_and] at mem
      exact .held (asksNode asks) found full mem.symm
    | idle inactive =>
      cases asks with
      | viewing _ active => simp [inactive] at active
    | absent | fetches | refuses => simp at mem
    | _ => cases asks
  | replied waits =>
    cases moves with
    | @grows _ _ _ _ n own read =>
      cases waits.symm.trans own
      have listed : hs = placesFrom s.forest.length (s.newChildren h n) := by simpa using mem
      exact .taken (grounded.targets _ _ _ (pendingWaits waits)) read rfl listed.symm
    | fails own failed =>
      cases waits.symm.trans own
      simp [Pending.failure] at mem
    | absent asks | atHand asks | fetches asks | refuses asks => cases asks
    | _ => simp at mem

section Accepted

variable {s : Session} {t : Ticket} {r : Reply} {h : Handle} {under : Option Handle} {n : Node}
  (waits : s.pending? t = some (.expansion h under)) (read : s.decode r = .ok n)
include waits read

theorem acceptedStep : s.step (.reply t r) = (s.settle t).attach t h under n := by
  have told : (s.settle t).decode r = .ok n := read
  simp [step, receive, waits, told]

theorem acceptedForest : (s.step (.reply t r)).1.forest = s.grown h n := by
  rw [acceptedStep waits read]
  rfl

theorem acceptedReturns :
    s.Returns (.reply t r) h (placesFrom s.forest.length (s.newChildren h n)) := by
  refine ⟨t, .replied waits, ?_⟩
  rw [acceptedStep waits read]
  exact List.mem_append_right _ List.mem_cons_self

end Accepted

section Returned

variable {s s' : Session} {i : Input} {h : Handle} {hs : List Handle}

theorem returnedCell (returned : Returned s h hs i s') : ∃ c, s'.forest[h]? = some c ∧
    c.children = hs ∧ (c.isMaterialized = true ↔ ∀ t r n, i = .reply t r → s.decode r = .ok n →
      n.isMaterialized = true) := by
  cases returned with
  | held asked found full same =>
    refine ⟨_, found, same, iff_of_true full ?_⟩
    rintro t r n rfl
    simp at asked
  | @taken t r n _ there read grown same =>
    obtain ⟨c, found, held, alike⟩ := grownCell (n := n) there
    refine ⟨c, grown ▸ found, held.trans same, ?_⟩
    rw [alike]
    constructor
    · rintro full _ _ m ⟨⟩ told
      cases told.symm.trans read
      exact full
    · intro all
      exact all t r n rfl read

theorem returnedFull (returned : Returned s h hs i s') : s'.Full h hs ↔
    ∀ t r n, i = .reply t r → s.decode r = .ok n → n.isMaterialized = true := by
  obtain ⟨c, found, rfl, whole⟩ := returnedCell returned
  rw [← whole]
  constructor
  · intro full
    simpa [Forest.fullAt, found] using full.materialized
  · exact fullCell found

end Returned

/- What becomes of a node whose expansion returns. -/
structure Expansions (k : Kind) : Prop where
  accepted : ∀ inputs t r h under n, ((fresh k).after inputs).pending? t =
    some (.expansion h under) → ((fresh k).after inputs).decode r = .ok n →
    ∃ hs, ((fresh k).after inputs).Returns (.reply t r) h hs ∧ hs.length = n.children.length ∧
      ((fresh k).after (inputs ++ [.reply t r])).forest[h]?.map Cell.numChildren =
        some n.numChildren
  held : ∀ inputs i h hs, ((fresh k).after inputs).Returns i h hs →
    ((fresh k).after (inputs ++ [i])).forest.childrenAt h = hs
  full : ∀ inputs i h hs, ((fresh k).after inputs).Returns i h hs →
    (((fresh k).after (inputs ++ [i])).Full h hs ↔ ∀ t r n, i = .reply t r →
      ((fresh k).after inputs).decode r = .ok n → n.isMaterialized = true)
  hollow : ∀ inputs i h hs, ((fresh k).after inputs).Returns i h hs →
    ¬ ((fresh k).after (inputs ++ [i])).Full h hs →
    hs = [] ∧ ((fresh k).after (inputs ++ [i])).Hollow h

theorem everyExpansionReturns (k : Kind) : Expansions k where
  accepted inputs t r h under n waits read := by
    have there := (afterGrounded k inputs).targets _ _ _ (pendingWaits waits)
    refine ⟨_, acceptedReturns waits read, ?_, ?_⟩
    · rw [placesCount, newChildren, adoptedCount]
    · rw [afterSnoc, acceptedForest waits read]
      exact grownCount there
  held inputs i h hs returns := by
    obtain ⟨c, found, same, _⟩ := returnedCell (returnsReturned (afterGrounded k inputs) returns)
    rw [afterSnoc, Forest.childrenOf found, same]
  full inputs i h hs returns := by
    rw [afterSnoc]
    exact returnedFull (returnsReturned (afterGrounded k inputs) returns)
  hollow inputs i h hs returns partly := by
    obtain ⟨c, found, same, _⟩ := returnedCell (returnsReturned (afterGrounded k inputs) returns)
    rw [← afterSnoc] at found
    have bare : c.isMaterialized = false := by
      refine Bool.eq_false_iff.mpr fun full => partly ?_
      exact same ▸ fullCell found full
    have none : c.children = [] := by
      have whole := (afterKeeps movesWhole (freshWhole k) (inputs ++ [i])).forest c
        (List.mem_of_getElem? found)
      refine whole.2.elim List.length_eq_zero_iff.mp fun all => ?_
      simp [Cell.isMaterialized, all] at bare
    obtain ⟨params, known⟩ := expansionKnown k (inputs ++ [i]) found
    exact ⟨same.symm.trans none, hollowCell found none bare known⟩

def unkeptPromise : List Input :=
  [.open ⟨"file:///p.cpp", ⟨0, 0⟩⟩,
    .reply 0 (.ok (.object [("id", .int 1), ("name", .text "main"), ("numChildren", .int 1)])),
    .expand 0]

def hollowReply : Input :=
  .reply 1 (.ok (.object [("id", .int 1), ("name", .text "main"), ("numChildren", .int 2)]))

theorem hollowReturns : ¬ ∀ k inputs i h hs, ((fresh k).after inputs).Returns i h hs →
    ((fresh k).after (inputs ++ [i])).Full h hs := by
  intro all
  have returns : ((fresh .call).after unkeptPromise).Returns hollowReply 0 [] :=
    ⟨1, @Expands.replied _ 1 _ 0 (some 0) rfl, List.mem_cons_of_mem _ List.mem_cons_self⟩
  have bare : ((fresh .call).after (unkeptPromise ++ [hollowReply])).forest.fullAt 0 = false := rfl
  have full := (all _ _ _ _ _ returns).materialized
  rw [bare] at full
  cases full

end Session
end SymbolHierarchy
