import Mathlib.Data.List.Forall2
import SymbolHierarchy.Proofs.Settings.Cutting

/-! Substitution of the workspace variable. Every text of a value comes to its pieces joined with
the root, however deep it stands; the value is the same otherwise. A root that starts with a slash
and holds no dollar sign leaves no variable behind. Only a value that holds itself has no
substitution. -/
namespace SymbolHierarchy

section Variable
open Document (pointsOf)

variable {root text : List Char} {points : List Nat}

theorem variableOnce : '$' ∉ workspaceVariable.tail := by decide

theorem pointsOnce : 36 ∉ (pointsOf workspaceVariable).tail := by decide

theorem variableCut (text : List Char) : ∃! pieces, Cut workspaceVariable text pieces :=
  cutUnique variableOnce text

theorem pointsCut (points : List Nat) : ∃! pieces, Cut (pointsOf workspaceVariable) points pieces :=
  cutUnique pointsOnce points

theorem variableSubstitute {pieces : List (List Char)} (cut : Cut workspaceVariable text pieces) :
    substitute workspaceVariable root 0 text = root.intercalate pieces :=
  substituteCut variableOnce cut

theorem pointsSubstitute {others : List Nat} {pieces : List (List Nat)}
    (cut : Cut (pointsOf workspaceVariable) points pieces) :
    substitute (pointsOf workspaceVariable) others 0 points = others.intercalate pieces :=
  substituteCut pointsOnce cut

theorem pointsAbsolute (absolute : ['/'] <+: root) : [47] <+: pointsOf root :=
  absolute.map Char.toNat

theorem pointsPlain (plain : '$' ∉ root) : 36 ∉ pointsOf root := by
  intro mem
  obtain ⟨c, there, same⟩ := List.mem_map.mp mem
  have dollar : c = '$' := Char.ext (UInt32.toNat_inj.mp same)
  exact plain (dollar ▸ there)

end Variable

namespace Document

inductive Other : Document → Prop
  | scalar {s : Scalar} (untold : ∀ t, s ≠ .text t) : Other (.scalar s)
  | bytes (bs : List UInt8) : Other (.bytes bs)
  | time (m : Moment) : Other (.time m)
  | pair (first second : Document) : Other (.pair first second)
  | set (items : List Document) : Other (.set items)

theorem induct {P : Document → Prop} (text : ∀ s, P (.text s)) (garbled : ∀ ps, P (.garbled ps))
    (other : ∀ v, Other v → P v) (list : ∀ items, (∀ v ∈ items, P v) → P (.list items))
    (mapping : ∀ entries, (∀ v ∈ entries.map Prod.snd, P v) → P (.mapping entries))
    (endless : P .endless) (v : Document) : P v := by
  refine @Document.rec P (fun items => ∀ v ∈ items, P v)
    (fun entries => ∀ v ∈ entries.map Prod.snd, P v) (fun e => P e.2) ?scalar garbled
    (fun bs => other _ (.bytes bs)) (fun m => other _ (.time m)) list
    (fun a b _ _ => other _ (.pair a b)) mapping (fun items _ => other _ (.set items)) endless
    ?noItem ?item ?noEntry ?entry ?both v
  case scalar =>
    intro s
    cases s with
    | text t => exact text t
    | null | bool | int | float => exact other _ (.scalar nofun)
  case noItem => simp
  case item => exact fun v rest own others => List.forall_mem_cons.mpr ⟨own, others⟩
  case noEntry => simp
  case entry => exact fun e rest own others => List.forall_mem_cons.mpr ⟨own, others⟩
  case both => exact fun _ _ _ own => own

/- What a value comes to with the variable replaced: the same value, but for its texts. -/
inductive Resolved (root : List Char) : Document → Document → Prop
  | other {v : Document} (other : Other v) : Resolved root v v
  | text {s t : String} {pieces : List (List Char)} (cut : Cut workspaceVariable s.toList pieces)
      (joined : t.toList = root.intercalate pieces) : Resolved root (.text s) (.text t)
  | garbled {ps : List Nat} {pieces : List (List Nat)}
      (cut : Cut (pointsOf workspaceVariable) ps pieces) :
      Resolved root (.garbled ps) (.garbled ((pointsOf root).intercalate pieces))
  | list {items others : List Document} (each : List.Forall₂ (Resolved root) items others) :
      Resolved root (.list items) (.list others)
  | mapping {entries others : List (Document × Document)}
      (keys : entries.map Prod.fst = others.map Prod.fst)
      (each : List.Forall₂ (Resolved root) (entries.map Prod.snd) (others.map Prod.snd)) :
      Resolved root (.mapping entries) (.mapping others)

/- A value that stands in another at some depth of lists and mappings, other than as a key. -/
inductive Within (t : Document) : Document → Prop
  | here : Within t t
  | item {v : Document} {items : List Document} (mem : v ∈ items) (inside : Within t v) :
      Within t (.list items)
  | entry {v : Document} {entries : List (Document × Document)} (mem : v ∈ entries.map Prod.snd)
      (inside : Within t v) : Within t (.mapping entries)

section Each

variable {α β ε : Type} {xs : List α} {ys : List β} {f : α → Except ε β} {R S : α → β → Prop}
  {r : ε}

theorem mappedOk : xs.mapM f = .ok ys ↔ List.Forall₂ (fun x y => f x = .ok y) xs ys := by
  induction xs generalizing ys with
  | nil => cases ys <;> simp [pure, Except.pure]
  | cons x rest ih =>
    rw [List.mapM_cons]
    cases own : f x with
    | error r => cases ys <;> simp [own, bind, Except.bind]
    | ok y =>
      cases ys with
      | nil => cases rest.mapM f <;> simp [bind, Except.bind, pure, Except.pure]
      | cons y' ys =>
        rw [List.forall₂_cons, ← ih, own]
        cases rest.mapM f <;> simp [bind, Except.bind, pure, Except.pure]

theorem mappedError (failed : xs.mapM f = .error r) : ∃ x ∈ xs, f x = .error r := by
  induction xs with
  | nil => cases failed
  | cons x rest ih =>
    rw [List.mapM_cons] at failed
    cases own : f x with
    | error r' =>
      rw [own] at failed
      cases failed
      exact ⟨x, List.mem_cons_self, own⟩
    | ok y =>
      cases more : rest.mapM f with
      | ok ys => simp [own, more, bind, Except.bind, pure, Except.pure] at failed
      | error r' =>
        rw [own, more] at failed
        cases failed
        obtain ⟨z, mem, there⟩ := ih more
        exact ⟨z, List.mem_cons_of_mem x mem, there⟩

theorem eachLikewise (same : ∀ x ∈ xs, ∀ y, R x y ↔ S x y) :
    List.Forall₂ R xs ys ↔ List.Forall₂ S xs ys := by
  induction xs generalizing ys with
  | nil => rw [List.forall₂_nil_left_iff, List.forall₂_nil_left_iff]
  | cons x rest ih =>
    obtain ⟨own, others⟩ := List.forall_mem_cons.mp same
    cases ys with
    | nil => simp
    | cons y ys => rw [List.forall₂_cons, List.forall₂_cons, own, ih others]

theorem eachReached (each : List.Forall₂ R xs ys) {y : β} (mem : y ∈ ys) : ∃ x ∈ xs, R x y := by
  induction each with
  | nil => cases mem
  | cons own _ ih =>
    rcases List.mem_cons.mp mem with rfl | later
    · exact ⟨_, List.mem_cons_self, own⟩
    · obtain ⟨x, there, related⟩ := ih later
      exact ⟨x, List.mem_cons_of_mem _ there, related⟩

theorem pairsApart {κ : Type} {es : List (κ × α)} {ps : List (κ × β)} :
    List.Forall₂ (fun e p => e.1 = p.1 ∧ R e.2 p.2) es ps ↔
      es.map Prod.fst = ps.map Prod.fst ∧
        List.Forall₂ R (es.map Prod.snd) (ps.map Prod.snd) := by
  induction es generalizing ps with
  | nil => cases ps <;> simp
  | cons e rest ih =>
    cases ps with
    | nil => simp
    | cons p ps =>
      simp only [List.forall₂_cons, List.map_cons, List.cons.injEq, ih]
      exact and_and_and_comm

end Each

section Resolving

variable {root : List Char} {v w : Document} {items : List Document}
  {entries pairs : List (Document × Document)} {r : Raised}

theorem otherResolve (other : Other v) (root : List Char) : v.resolve root = .ok v := by
  cases other with
  | @scalar s untold =>
    cases s with
    | text t => exact absurd rfl (untold t)
    | null | bool | int | float => rfl
  | bytes | time | pair | set => rfl

theorem textResolve (root : List Char) (s : String) : (text s).resolve root =
    .ok (text (String.ofList (substitute workspaceVariable root 0 s.toList))) := rfl

theorem garbledResolve (root : List Char) (ps : List Nat) : (garbled ps).resolve root =
    .ok (.garbled (substitute (pointsOf workspaceVariable) (pointsOf root) 0 ps)) := rfl

theorem resolveItemsMap (root : List Char) (items : List Document) :
    resolveItems root items = items.mapM (resolve root) := by
  induction items with
  | nil => rfl
  | cons v rest ih =>
    rw [resolveItems, ih, List.mapM_cons]
    rfl

def entryResolved {κ : Type} (root : List Char) (e : κ × Document) : Except Raised (κ × Document) :=
  do .ok (e.1, ← e.2.resolve root)

theorem entryResolvedOk {κ : Type} {e p : κ × Document} :
    entryResolved root e = .ok p ↔ e.1 = p.1 ∧ e.2.resolve root = .ok p.2 := by
  obtain ⟨k, w⟩ := p
  unfold entryResolved
  cases e.2.resolve root <;> simp [bind, Except.bind]

theorem entryResolvedError {κ : Type} {e : κ × Document}
    (failed : entryResolved root e = .error r) : e.2.resolve root = .error r := by
  unfold entryResolved at failed
  cases own : e.2.resolve root with
  | error r' => simpa [own, bind, Except.bind] using failed
  | ok w => simp [own, bind, Except.bind] at failed

theorem resolveEntriesMap (root : List Char) (entries : List (Document × Document)) :
    resolveEntries root entries = entries.mapM (entryResolved root) := by
  induction entries with
  | nil => rfl
  | cons e rest ih =>
    rw [resolveEntries, ih, List.mapM_cons, entryResolved]
    cases e.2.resolve root <;> rfl

theorem entriesResolve {κ : Type} {es ps : List (κ × Document)} :
    es.mapM (entryResolved root) = .ok ps ↔ es.map Prod.fst = ps.map Prod.fst ∧
      List.Forall₂ (fun v w => v.resolve root = .ok w) (es.map Prod.snd) (ps.map Prod.snd) := by
  rw [mappedOk, ← pairsApart]
  exact eachLikewise fun _ _ _ => entryResolvedOk

theorem listResolve : (list items).resolve root = .ok w ↔
    ∃ others, w = .list others ∧
      List.Forall₂ (fun v w => v.resolve root = .ok w) items others := by
  simp only [← mappedOk, ← resolveItemsMap]
  unfold resolve
  cases resolveItems root items <;> simp [bind, Except.bind, eq_comm]

theorem mappingResolve : (mapping entries).resolve root = .ok w ↔
    ∃ others : List (Document × Document), w = .mapping others ∧
      entries.map Prod.fst = others.map Prod.fst ∧
      List.Forall₂ (fun v w => v.resolve root = .ok w) (entries.map Prod.snd)
        (others.map Prod.snd) := by
  simp only [← entriesResolve, ← resolveEntriesMap]
  unfold resolve
  cases resolveEntries root entries <;> simp [bind, Except.bind, eq_comm]

theorem resolvedText {s : String} :
    Resolved root (.text s) w ↔ (text s).resolve root = .ok w := by
  rw [textResolve]
  constructor
  · rintro (⟨⟨untold⟩⟩ | ⟨cut, joined⟩)
    · exact absurd rfl (untold s)
    · rw [variableSubstitute cut, ← joined, String.ofList_toList]
  · rintro ⟨⟩
    obtain ⟨pieces, cut, _⟩ := variableCut s.toList
    exact .text cut (by rw [String.toList_ofList, variableSubstitute cut])

theorem resolvedGarbled {ps : List Nat} :
    Resolved root (.garbled ps) w ↔ (garbled ps).resolve root = .ok w := by
  rw [garbledResolve]
  constructor
  · rintro (⟨⟨⟩⟩ | _ | cut)
    rw [pointsSubstitute cut]
  · rintro ⟨⟩
    obtain ⟨pieces, cut, _⟩ := pointsCut ps
    rw [pointsSubstitute cut]
    exact .garbled cut

theorem resolvedExactly : v.resolve root = .ok w ↔ Resolved root v w := by
  induction v using induct generalizing w with
  | text s => exact resolvedText.symm
  | garbled ps => exact resolvedGarbled.symm
  | other v other =>
    rw [otherResolve other]
    constructor
    · rintro ⟨⟩
      exact .other other
    · intro resolved
      cases resolved with
      | other => rfl
      | text => cases other with | scalar untold => exact absurd rfl (untold _)
      | garbled | list | mapping => cases other
  | list items own =>
    rw [listResolve]
    constructor
    · rintro ⟨others, rfl, each⟩
      exact .list ((eachLikewise fun v mem w => own v mem).mp each)
    · rintro (⟨⟨⟩⟩ | _ | _ | each)
      exact ⟨_, rfl, (eachLikewise fun v mem w => own v mem).mpr each⟩
  | mapping entries own =>
    rw [mappingResolve]
    constructor
    · rintro ⟨others, rfl, keys, each⟩
      exact .mapping keys ((eachLikewise fun v mem w => own v mem).mp each)
    · rintro (⟨⟨⟩⟩ | _ | _ | _ | ⟨keys, each⟩)
      exact ⟨_, rfl, keys, (eachLikewise fun v mem w => own v mem).mpr each⟩
  | endless => exact ⟨nofun, nofun⟩

theorem resolveError (failed : v.resolve root = .error r) : r = .endless ∧ Within .endless v := by
  induction v using induct with
  | text | garbled => cases failed
  | other v other => cases (otherResolve other root).symm.trans failed
  | list items own =>
    rw [resolve, resolveItemsMap] at failed
    cases each : items.mapM (resolve root) with
    | ok others => simp [each, bind, Except.bind] at failed
    | error r' =>
      rw [each] at failed
      cases failed
      obtain ⟨v, mem, there⟩ := mappedError each
      exact (own v mem there).imp_right (.item mem)
  | mapping entries own =>
    rw [resolve, resolveEntriesMap] at failed
    cases each : entries.mapM (entryResolved root) with
    | ok others => simp [each, bind, Except.bind] at failed
    | error r' =>
      rw [each] at failed
      cases failed
      obtain ⟨e, mem, there⟩ := mappedError each
      have value := List.mem_map_of_mem (f := Prod.snd) mem
      exact (own e.2 value (entryResolvedError there)).imp_right (.entry value)
  | endless =>
    cases failed
    exact ⟨rfl, .here⟩

theorem endlessUnresolved (inside : Within .endless v) : ¬ Resolved root v w := by
  induction inside generalizing w with
  | here => exact nofun
  | item mem _ ih =>
    rintro (⟨⟨⟩⟩ | _ | _ | each)
    obtain ⟨_, _, own⟩ := eachReached each.flip mem
    exact ih own
  | entry mem _ ih =>
    rintro (⟨⟨⟩⟩ | _ | _ | _ | ⟨_, each⟩)
    obtain ⟨_, _, own⟩ := eachReached each.flip mem
    exact ih own

theorem refusedExactly : v.resolve root = .error r ↔ r = .endless ∧ Within .endless v := by
  refine ⟨resolveError, fun ⟨same, inside⟩ => ?_⟩
  cases told : v.resolve root with
  | ok w => exact absurd (resolvedExactly.mp told) (endlessUnresolved inside)
  | error r' => rw [same, (resolveError told).1]

end Resolving

/- A value in which no text holds the variable and nothing holds itself. -/
structure Clear (v : Document) : Prop where
  text : ∀ s, Within (.text s) v → ¬ workspaceVariable <:+: s.toList
  garbled : ∀ ps, Within (.garbled ps) v → ¬ pointsOf workspaceVariable <:+: ps
  finite : ¬ Within .endless v

section Clearing

variable {root : List Char} {v w : Document} {items : List Document}
  {entries : List (Document × Document)}

theorem otherClear (other : Other v) : Clear v where
  text s inside := by
    cases inside with
    | here => cases other with | scalar untold => exact absurd rfl (untold s)
    | item | entry => cases other
  garbled ps inside := by cases inside <;> cases other
  finite inside := by cases inside <;> cases other

theorem textClear {s : String} (free : ¬ workspaceVariable <:+: s.toList) : Clear (.text s) where
  text _ inside := by
    cases inside
    exact free
  garbled _ inside := by cases inside
  finite inside := by cases inside

theorem garbledClear {ps : List Nat} (free : ¬ pointsOf workspaceVariable <:+: ps) :
    Clear (.garbled ps) where
  text _ inside := by cases inside
  garbled _ inside := by
    cases inside
    exact free
  finite inside := by cases inside

theorem listClear : Clear (.list items) ↔ ∀ v ∈ items, Clear v where
  mp clear v mem :=
    ⟨fun s inside => clear.text s (.item mem inside),
      fun ps inside => clear.garbled ps (.item mem inside),
      fun inside => clear.finite (.item mem inside)⟩
  mpr each := by
    refine ⟨fun s => ?_, fun ps => ?_, ?_⟩
    · rintro (_ | ⟨mem, inside⟩)
      exact (each _ mem).text s inside
    · rintro (_ | ⟨mem, inside⟩)
      exact (each _ mem).garbled ps inside
    · rintro (_ | ⟨mem, inside⟩)
      exact (each _ mem).finite inside

theorem mappingClear : Clear (.mapping entries) ↔ ∀ v ∈ entries.map Prod.snd, Clear v where
  mp clear v mem :=
    ⟨fun s inside => clear.text s (.entry mem inside),
      fun ps inside => clear.garbled ps (.entry mem inside),
      fun inside => clear.finite (.entry mem inside)⟩
  mpr each := by
    refine ⟨fun s => ?_, fun ps => ?_, ?_⟩
    · rintro (_ | _ | ⟨mem, inside⟩)
      exact (each _ mem).text s inside
    · rintro (_ | _ | ⟨mem, inside⟩)
      exact (each _ mem).garbled ps inside
    · rintro (_ | _ | ⟨mem, inside⟩)
      exact (each _ mem).finite inside

theorem resolvedClear (absolute : ['/'] <+: root) (plain : '$' ∉ root)
    (resolved : Resolved root v w) : Clear w := by
  induction v using induct generalizing w with
  | text s =>
    cases resolved with
    | other other => exact otherClear other
    | text cut joined => exact textClear (joined ▸ joinedClear absolute (by decide) plain cut)
  | garbled ps =>
    cases resolved with
    | other other => exact otherClear other
    | garbled cut =>
      exact garbledClear (joinedClear (pointsAbsolute absolute) (by decide) (pointsPlain plain) cut)
  | other v other =>
    cases (otherResolve other root).symm.trans (resolvedExactly.mpr resolved)
    exact otherClear other
  | list items own =>
    cases resolved with
    | other other => exact otherClear other
    | list each =>
      refine listClear.mpr fun w mem => ?_
      obtain ⟨v, there, related⟩ := eachReached each mem
      exact own v there related
  | mapping entries own =>
    cases resolved with
    | other other => exact otherClear other
    | mapping keys each =>
      refine mappingClear.mpr fun w mem => ?_
      obtain ⟨v, there, related⟩ := eachReached each mem
      exact own v there related
  | endless => cases resolved with | other other => exact otherClear other

theorem clearKept (clear : Clear v) (root : List Char) : v.resolve root = .ok v := by
  induction v using induct with
  | text s => rw [textResolve, substituteFree (clear.text s .here), String.ofList_toList]
  | garbled ps => rw [garbledResolve, substituteFree (clear.garbled ps .here)]
  | other v other => exact otherResolve other root
  | list items own =>
    exact listResolve.mpr ⟨items, rfl, List.forall₂_same.mpr fun v mem =>
      own v mem (listClear.mp clear v mem)⟩
  | mapping entries own =>
    exact mappingResolve.mpr ⟨entries, rfl, rfl, List.forall₂_same.mpr fun v mem =>
      own v mem (mappingClear.mp clear v mem)⟩
  | endless => exact absurd .here clear.finite

end Clearing

structure Substituted (root : List Char) (v : Document) : Prop where
  resolved : ∀ w, v.resolve root = .ok w ↔ Resolved root v w
  refused : ∀ r, v.resolve root = .error r ↔ r = .endless ∧ Within .endless v
  clear : ['/'] <+: root → '$' ∉ root → ∀ w, v.resolve root = .ok w → Clear w
  again : ['/'] <+: root → '$' ∉ root → ∀ w, v.resolve root = .ok w →
    ∀ other, w.resolve other = .ok w

theorem substituted (root : List Char) (v : Document) : Substituted root v where
  resolved _ := resolvedExactly
  refused _ := refusedExactly
  clear absolute plain _ told := resolvedClear absolute plain (resolvedExactly.mp told)
  again absolute plain _ told :=
    clearKept (resolvedClear absolute plain (resolvedExactly.mp told))

def ofOptions (options : List (String × Document)) : Document :=
  .mapping (options.map fun o => (.text o.1, o.2))

theorem entryNamed (root : List Char) (o : String × Document) :
    entryResolved root (text o.1, o.2) =
      (entryResolved root o).map fun p => (text p.1, p.2) := by
  unfold entryResolved
  cases o.2.resolve root <;> rfl

theorem optionsNamed (root : List Char) (options : List (String × Document)) :
    (options.map fun o => (text o.1, o.2)).mapM (entryResolved root) =
      (options.mapM (entryResolved root)).map (List.map fun p => (text p.1, p.2)) := by
  induction options with
  | nil => rfl
  | cons o rest ih =>
    rw [List.map_cons, List.mapM_cons, List.mapM_cons, ih, entryNamed]
    cases entryResolved root o with
    | error r => rfl
    | ok p => cases rest.mapM (entryResolved root) <;> rfl

theorem optionsResolve (root : List Char) (options : List (String × Document)) :
    (options.mapM (entryResolved root)).map ofOptions = (ofOptions options).resolve root := by
  rw [ofOptions, resolve, resolveEntriesMap, optionsNamed]
  cases options.mapM (entryResolved root) <;> rfl

end Document

/- The variable is replaced in every text of a value, at all of the places where the text is cut,
and so in the options that a server is told. -/
theorem variableReplaced :
    (∀ text, ∃! pieces, Cut workspaceVariable text pieces) ∧
      (∀ points, ∃! pieces, Cut (Document.pointsOf workspaceVariable) points pieces) ∧
      (∀ root v, Document.Substituted root v) ∧
      ∀ (s : Settings) (root : Path), (s.options root).map Document.ofOptions =
        (Document.ofOptions s.overlaid).resolve root.chars :=
  ⟨variableCut, pointsCut, Document.substituted,
    fun s root => Document.optionsResolve root.chars s.overlaid⟩

def knotted : Document :=
  .list [.text "$\x7bworkspaceFolder\x7d$\x7bworkspaceFolder\x7d/a",
    .mapping [(.text "$\x7bworkspaceFolder\x7d", .text "$$\x7bworkspaceFolder\x7d\x7d"),
      (.text "n", .scalar (.int 3))],
    .text "$\x7bwork$\x7bworkspaceFolder\x7dspaceFolder\x7d",
    .garbled (0xD800 :: Document.pointsOf workspaceVariable),
    .bytes [0x24]]

def laidOut : Document :=
  .list [.text "/r/r/a",
    .mapping [(.text "$\x7bworkspaceFolder\x7d", .text "$/r\x7d"), (.text "n", .scalar (.int 3))],
    .text "$\x7bwork/rspaceFolder\x7d", .garbled [0xD800, 47, 114], .bytes [0x24]]

theorem variableReplacedKnotted :
    knotted.resolve ['/', 'r'] = .ok laidOut ∧ ∀ other, laidOut.resolve other = .ok laidOut := by
  have same : knotted.resolve ['/', 'r'] = .ok laidOut := rfl
  have substituted := variableReplaced.2.2.1 ['/', 'r'] knotted
  exact ⟨same, substituted.again ⟨['r'], rfl⟩ (by decide) laidOut same⟩

end SymbolHierarchy
