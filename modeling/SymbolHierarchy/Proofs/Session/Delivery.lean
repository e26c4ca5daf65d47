import Mathlib.Logic.Function.Basic
import SymbolHierarchy.Proofs.Session.Homes

/-! What the delivery of replies comes to, in any order. A node holds what the last reply for it
brought; replies for two nodes make the same trees whichever comes first; and a reply for a node
of another root than the present one is not seen. -/
namespace SymbolHierarchy
namespace Session

structure Regrown (f F : Forest) (given : Handle → Option (Int × List Node)) : Prop where
  kept : ∀ (h : Nat) c, f[h]? = some c → given h = none → F[h]? = some c
  changed : ∀ (h : Nat) c k ns, f[h]? = some c → given h = some (k, ns) →
    ∃ hs : List Nat, F[h]? = some { c with numChildren := k, children := hs } ∧
      hs.map F.tree? = ns.map some ∧ ∀ x ∈ hs, f.length ≤ x

theorem regrownTree {f F F' : Forest} {given} (ordered : f.Ordered) (first : F.Ordered)
    (second : F'.Ordered) (regrown : Regrown f F given) (regrown' : Regrown f F' given) {h : Nat}
    (inside : h < f.length) : F.tree? h = F'.tree? h := by
  -- on the number of old places behind the node
  induction gap : f.length - h using Nat.strongRecOn generalizing h with
  | ind gap ih =>
    have found : f[h]? = some f[h] := List.getElem?_eq_getElem inside
    cases gift : given h with
    | none =>
      obtain ⟨ns, read, tree⟩ := Forest.treeAt first (regrown.kept h _ found gift)
      obtain ⟨ns', read', tree'⟩ := Forest.treeAt second (regrown'.kept h _ found gift)
      have each : f[h].children.map F.tree? = f[h].children.map F'.tree? := by
        refine List.map_congr_left ?_
        intro child mem
        have later := Forest.orderedChild ordered found mem
        exact ih _ (by omega) later.2 rfl
      have equal : ns = ns' :=
        (List.map_inj_right fun _ _ => Option.some.inj).mp (read.symm.trans (each.trans read'))
      rw [tree, tree', equal]
    | some kids =>
      obtain ⟨hs, there, given, _⟩ := regrown.changed h _ _ _ found gift
      obtain ⟨hs', there', given', _⟩ := regrown'.changed h _ _ _ found gift
      obtain ⟨ns, read, tree⟩ := Forest.treeAt first there
      obtain ⟨ns', read', tree'⟩ := Forest.treeAt second there'
      have equal : ns = kids.2 :=
        (List.map_inj_right fun _ _ => Option.some.inj).mp (read.symm.trans given)
      have equal' : ns' = kids.2 :=
        (List.map_inj_right fun _ _ => Option.some.inj).mp (read'.symm.trans given')
      rw [tree, tree', equal, equal']

theorem grownHolds {s : Session} {h : Nat} {n : Node} (target : h < s.forest.length) :
    (s.grown h n).Holds s.forest.length
      (Node.cellsAll s.forest.length (s.newChildren h n)) := by
  intro i _
  have other : h ≠ s.forest.length + i := by omega
  rw [grown, Forest.adoptElsewhere _ _ _ _ _ other, Forest.plantAll,
    List.getElem?_append_right (Nat.le_add_right _ _), Nat.add_sub_cancel_left]

theorem grownRegrown {s : Session} {f : Forest} {given} {h : Nat} {n : Node}
    (grounded : s.Grounded) (room : f.length ≤ s.forest.length) (regrown : Regrown f s.forest given)
    (own : given h = none) (target : h < f.length) :
    Regrown f (s.grown h n)
      (Function.update given h (some (n.numChildren, s.newChildren h n))) := by
  have there : h < s.forest.length := Nat.lt_of_lt_of_le target room
  have ordered := grownOrdered (n := n) grounded.ordered there
  refine ⟨?_, ?_⟩
  · intro x c found none
    by_cases here : x = h
    · subst here
      simp at none
    · rw [Function.update_of_ne here] at none
      have old := (List.getElem?_eq_some_iff.mp found).1
      rw [grownElsewhere (by omega) (Ne.symm here)]
      exact regrown.kept x c found none
  · intro x c k ns found gift
    by_cases here : x = h
    · subst here
      rw [Function.update_self] at gift
      cases gift
      have was := regrown.kept x c found own
      refine ⟨placesFrom s.forest.length (s.newChildren x n), ?_,
        Forest.heldTrees ordered (grownHolds there), ?_⟩
      · rw [grown, Forest.adoptAt, Forest.plantAllKeeps _ _ _ there, was]
        simp
      · intro y mem
        exact Nat.le_trans room (placesRange mem).1
    · rw [Function.update_of_ne here] at gift
      have old := (List.getElem?_eq_some_iff.mp found).1
      obtain ⟨hs, was, read, behind⟩ := regrown.changed x c k ns found gift
      refine ⟨hs, ?_, ?_, behind⟩
      · rw [grownElsewhere (by omega) (Ne.symm here)]
        exact was
      -- the children given before stand behind every old node, so behind the one that grows
      · rw [← read]
        refine List.map_congr_left ?_
        intro y mem
        have range := Forest.orderedChild grounded.ordered was mem
        refine Forest.treeKept grounded.ordered ordered range.2 ?_
        intro z below
        have after := Forest.belowOrdered grounded.ordered below
        have late := behind y mem
        exact grownElsewhere (Forest.belowInside grounded.ordered range.2 below) (by omega)

def gift (s : Session) (h : Handle) (r : Reply) : Option (Int × List Node) :=
  (s.decode r).toOption.map fun n => (n.numChildren, s.newChildren h n)

theorem expansionStep {s : Session} {t h under} (waits : s.pending? t = some (.expansion h under))
    (r : Reply) :
    (s.step (.reply t r)).1.root = s.root ∧
      (s.step (.reply t r)).1.forest =
        match s.decode r with
        | .ok n => s.grown h n
        | .error _ => s.forest := by
  simp only [step, receive, waits]
  rw [show (s.settle t).decode r = s.decode r from rfl]
  cases s.decode r <;> exact ⟨rfl, rfl⟩

theorem replyRegrown {s : Session} {f : Forest} {given} {t : Ticket} {h : Nat} {under}
    (grounded : s.Grounded) (waits : s.pending? t = some (.expansion h under)) (r : Reply)
    (room : f.length ≤ s.forest.length) (regrown : Regrown f s.forest given)
    (own : given h = none) (target : h < f.length) :
    Regrown f (s.step (.reply t r)).1.forest (Function.update given h (s.gift h r)) := by
  rw [(expansionStep waits r).2, gift]
  cases s.decode r with
  | ok n => exact grownRegrown grounded room regrown own target
  | error e =>
    have same : Function.update given h none = given := by
      rw [← own, Function.update_eq_self]
    simpa [Except.toOption, same] using regrown

theorem giftLater {s : Session} {t : Ticket} {h h' : Nat} {under} (r r' : Reply)
    (waits : s.pending? t = some (.expansion h under)) (other : h ≠ h')
    (there : h' < s.forest.length) : (s.step (.reply t r)).1.gift h' r' = s.gift h' r' := by
  have kind := movesKind (stepMoves s (.reply t r))
  have same : (s.step (.reply t r)).1.forest[h']? = s.forest[h']? := by
    refine replyElsewhere there ?_
    intro q own
    rw [waits] at own
    cases own
    exact other rfl
  simp only [gift, decode, newChildren, directionOf, kind, same]

theorem pairRegrown {s : Session} {t t' : Ticket} {h h' : Nat} {under under'} (r r' : Reply)
    (grounded : s.Grounded) (young : ∀ w ∈ s.waiting, w.1 < s.issued)
    (waits : s.pending? t = some (.expansion h under))
    (waits' : s.pending? t' = some (.expansion h' under')) (other : h ≠ h') :
    Regrown s.forest ((s.step (.reply t r)).1.step (.reply t' r')).1.forest
        (Function.update (Function.update (fun _ => none) h (s.gift h r)) h' (s.gift h' r')) ∧
      ((s.step (.reply t r)).1.step (.reply t' r')).1.root = s.root := by
  have moves := stepMoves s (.reply t r)
  have target := grounded.targets _ _ _ (pendingWaits waits)
  have target' := grounded.targets _ _ _ (pendingWaits waits')
  have still : (s.step (.reply t r)).1.pending? t' = some (.expansion h' under') := by
    rw [movesPending moves (young _ (pendingWaits waits')), waits']
    rintro _ same
    cases same
    rw [waits] at waits'
    cases waits'
    exact other rfl
  have start : Regrown s.forest s.forest fun _ => none :=
    ⟨fun _ _ found _ => found, fun _ _ _ _ _ no => nomatch no⟩
  have first := replyRegrown grounded waits r (Nat.le_refl _) start rfl target
  have second := replyRegrown (movesGrounded moves grounded) still r'
    (turnsLength (movesTurns moves)) first (Function.update_of_ne (Ne.symm other) _ _) target'
  rw [giftLater r r' waits other target'] at second
  exact ⟨second, (expansionStep still r').1.trans (expansionStep waits r).1⟩

theorem eitherOrder {s : Session} {t t' : Ticket} {h h' : Nat} {under under'} (r r' : Reply)
    (grounded : s.Grounded) (young : ∀ w ∈ s.waiting, w.1 < s.issued)
    (waits : s.pending? t = some (.expansion h under))
    (waits' : s.pending? t' = some (.expansion h' under')) (other : h ≠ h') :
    (s.after [.reply t r, .reply t' r']).root = (s.after [.reply t' r', .reply t r]).root ∧
      ∀ x : Nat, x < s.forest.length →
        (s.after [.reply t r, .reply t' r']).forest.tree? x =
          (s.after [.reply t' r', .reply t r]).forest.tree? x := by
  have one := pairRegrown r r' grounded young waits waits' other
  have two := pairRegrown r' r grounded young waits' waits (Ne.symm other)
  have ordered := (afterKeeps movesGrounded grounded [.reply t r, .reply t' r']).ordered
  have ordered' := (afterKeeps movesGrounded grounded [.reply t' r', .reply t r]).ordered
  rw [Function.update_comm (Ne.symm other)] at two
  simp only [afterCons, afterNil] at ordered ordered' ⊢
  refine ⟨one.2.trans two.2.symm, ?_⟩
  intro x inside
  exact regrownTree grounded.ordered ordered ordered' one.1 two.1 inside

theorem askedBefore (s : Session) (inputs : List Input) {t : Ticket} {h : Nat} {under}
    (waits : (t, Pending.expansion h under) ∈ (s.after inputs).waiting) :
    (t, Pending.expansion h under) ∈ s.waiting ∨ ∃ before i rest, inputs = before ++ i :: rest ∧
      t = (s.after before).issued ∧ under = (s.after before).root ∧
      (i = .expand h ∨ i = .children (some h)) := by
  induction inputs generalizing s with
  | nil => exact .inl waits
  | cons i rest ih =>
    rw [afterCons] at waits
    rcases ih _ waits with old | ⟨before, j, later, rfl, place⟩
    · rcases movesWaiting (stepMoves s i) old with older | new
      · exact .inl older
      · exact .inr ⟨[], i, rest, rfl, beginsAsked new rfl⟩
    · exact .inr ⟨i :: before, j, later, rfl, by simpa [afterCons] using place⟩

theorem staleUnseen (k : Kind) (inputs : List Input) {t : Ticket} {h q : Nat} {under} (r : Reply)
    (waits : ((fresh k).after inputs).pending? t = some (.expansion h under))
    (active : ((fresh k).after inputs).root = some q)
    (away : ((fresh k).homes inputs)[h]? ≠ some q) :
    (∀ x : Nat, ((fresh k).after inputs).forest.Below q x →
      (((fresh k).after inputs).step (.reply t r)).1.forest[x]? =
        ((fresh k).after inputs).forest[x]?) ∧
      (((fresh k).after inputs).step (.reply t r)).1.forest.tree? q =
        ((fresh k).after inputs).forest.tree? q := by
  have grounded := afterGrounded k inputs
  have next := movesGrounded (stepMoves _ (.reply t r)) grounded
  have inside := grounded.root q active
  have kept : ∀ x : Nat, ((fresh k).after inputs).forest.Below q x →
      (((fresh k).after inputs).step (.reply t r)).1.forest[x]? =
        ((fresh k).after inputs).forest[x]? := by
    intro x below
    refine replyElsewhere (Forest.belowInside grounded.ordered inside below) ?_
    intro u own
    rw [waits] at own
    cases own
    exact away (belowRootHome k inputs active below)
  exact ⟨kept, Forest.treeKept grounded.ordered next.ordered inside kept⟩

/- The last reply wins, on its own node and nowhere else. The children that it brought are read
where they were made, since each of them may have grown by replies of its own. -/
structure LastWins (k : Kind) : Prop where
  grown : ∀ inputs (h : Nat) c g, ((fresh k).after inputs).forest[h]? = some c →
    lastGrowth ((fresh k).growths inputs) h = some g →
    c.numChildren = g.reply.numChildren ∧
      c.children = placesFrom g.base (g.brings k c.facet.wantsDerived) ∧
      c.children.map ((fresh k).births inputs).tree? = (g.brings k c.facet.wantsDerived).map some
  ungrown : ∀ inputs (h : Nat) c, ((fresh k).after inputs).forest[h]? = some c →
    lastGrowth ((fresh k).growths inputs) h = none →
    ∃ b, ((fresh k).births inputs)[h]? = some b ∧
      c.numChildren = b.numChildren ∧ c.children = b.children
  asked : ∀ inputs t h under, ((fresh k).after inputs).pending? t = some (.expansion h under) →
    ∃ before i rest, inputs = before ++ i :: rest ∧ t = ((fresh k).after before).issued ∧
      under = ((fresh k).after before).root ∧ (i = .expand h ∨ i = .children (some h))
  others : ∀ inputs t r (x : Nat), x < ((fresh k).after inputs).forest.length →
    (∀ under, ((fresh k).after inputs).pending? t ≠ some (.expansion x under)) →
    (((fresh k).after inputs).step (.reply t r)).1.forest[x]? =
      ((fresh k).after inputs).forest[x]?
  either : ∀ inputs t t' h h' under under' r r',
    ((fresh k).after inputs).pending? t = some (.expansion h under) →
    ((fresh k).after inputs).pending? t' = some (.expansion h' under') → h ≠ h' →
    ((fresh k).after (inputs ++ [.reply t r, .reply t' r'])).root =
        ((fresh k).after (inputs ++ [.reply t' r', .reply t r])).root ∧
      ∀ x : Nat, x < ((fresh k).after inputs).forest.length →
        ((fresh k).after (inputs ++ [.reply t r, .reply t' r'])).forest.tree? x =
          ((fresh k).after (inputs ++ [.reply t' r', .reply t r])).forest.tree? x
  home : ∀ inputs (q x : Nat), ((fresh k).after inputs).root = some q →
    ((fresh k).after inputs).forest.Below q x → ∀ later,
      ((fresh k).homes (inputs ++ later))[x]? = some q
  stale : ∀ inputs t h under r, ((fresh k).after inputs).pending? t = some (.expansion h under) →
    (((fresh k).after inputs).step (.reply t r)).1.root = ((fresh k).after inputs).root ∧
      ∀ q : Nat, ((fresh k).after inputs).root = some q →
        ((fresh k).homes inputs)[h]? ≠ some q →
        (∀ x : Nat, ((fresh k).after inputs).forest.Below q x →
          (((fresh k).after inputs).step (.reply t r)).1.forest[x]? =
            ((fresh k).after inputs).forest[x]?) ∧
          (((fresh k).after inputs).step (.reply t r)).1.forest.tree? q =
            ((fresh k).after inputs).forest.tree? q

theorem lastReplyWins (k : Kind) : LastWins k := by
  have recorded : ∀ inputs, Recorded k ((fresh k).after inputs).forest
      ((fresh k).births inputs) ((fresh k).growths inputs) :=
    fun inputs => afterRecorded (freshGrounded k) (freshRecorded k) inputs
  refine ⟨?_, fun inputs => (recorded inputs).kept, ?_, ?_, ?_, ?_, ?_⟩
  · intro inputs h c g found last
    obtain ⟨count, children⟩ := (recorded inputs).grown h c g found last
    obtain ⟨mem, rfl⟩ := lastGrowthMem last
    obtain ⟨own, there, holds⟩ := (recorded inputs).held g mem
    cases there.symm.trans found
    refine ⟨count, children, ?_⟩
    rw [children]
    exact Forest.heldTrees (recorded inputs).ordered holds
  · intro inputs t h under waits
    rcases askedBefore (fresh k) inputs (pendingWaits waits) with start | asked
    · simp [fresh] at start
    · exact asked
  · intro inputs t r x old other
    exact replyElsewhere old other
  · intro inputs t t' h h' under under' r r' waits waits' other
    rw [afterAppend, afterAppend]
    exact eitherOrder r r' (afterGrounded k inputs) (freshYoung k inputs) waits waits' other
  · intro inputs q x active below later
    exact homesKept (fresh k) inputs later (belowRootHome k inputs active below)
  · intro inputs t h under r waits
    refine ⟨(expansionStep waits r).1, ?_⟩
    intro q active away
    exact staleUnseen k inputs r waits active away

/- Two expansions of one root, answered the wrong way round: it keeps what came last. -/
example :
    (((fresh .call).after
      [.open ⟨"file:///p.cpp", ⟨0, 0⟩⟩,
        .reply 0 (.ok (.object [("id", .int 1), ("name", .text "A"), ("numChildren", .int 1)])),
        .expand 0, .expand 0,
        .reply 2 (.ok (.object [("id", .int 1), ("name", .text "A"), ("numChildren", .int 0)])),
        .reply 1 (.ok (.object [("id", .int 1), ("name", .text "A"), ("numChildren", .int 1),
          ("children", .list [.object [("id", .int 2), ("name", .text "B"),
            ("numChildren", .int 0)]])]))]).forest.tree? 0).map (fun n => n.children.map Node.name) =
      some ["B"] := rfl

end Session
end SymbolHierarchy
