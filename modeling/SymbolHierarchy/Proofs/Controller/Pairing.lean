import SymbolHierarchy.Proofs.Controller.Routes
import SymbolHierarchy.Proofs.Number.Overflow

/-! Which clicks make a pair, told from all that was done before. One id and one time are kept for
each hierarchy; they are those of the last click on a node with a location and children since the
hierarchy was closed. Time is that of one clock, any two readings of which differ by something: a
double and a whole number beyond all doubles do not. -/
namespace SymbolHierarchy

structure Timepiece (σ : Type) where
  read : σ → Reading
  span : σ → σ → Reading
  measured : ∀ first last, (read last).sub? (read first) = some (span first last)

def Timepiece.whole : Timepiece Int :=
  ⟨.exact, fun first last => .exact (last - first), fun _ _ => rfl⟩

def Timepiece.double : Timepiece Binary64 :=
  ⟨.double, fun first last => .double (last.sub first), fun _ _ => rfl⟩

def Timepiece.mixed : Timepiece { r : Reading // r.toDouble?.isSome } where
  read := Subtype.val
  span first last := (last.val.sub? first.val).getD last.val
  measured first last := by
    obtain ⟨first, told⟩ := first
    obtain ⟨last, told'⟩ := last
    obtain ⟨x, left⟩ := Option.isSome_iff_exists.mp told
    obtain ⟨y, right⟩ := Option.isSome_iff_exists.mp told'
    cases first <;> cases last <;> simp [Reading.sub?, left, right]

theorem Timepiece.lapse {σ : Type} (clock : Timepiece σ) (window : Reading) (first last : σ) :
    Reading.lapse window (clock.read first) (clock.read last) =
      if (clock.span first last).less window then
        if (clock.span first last).toDouble?.isSome then .inTime else .untold
      else .late := by
  simp only [Reading.lapse, clock.measured]
  cases (clock.span first last).less window <;> rfl

namespace Action

variable {σ τ : Type}

def timed (read : σ → τ) : Action σ → Action τ
  | .session k i => .session k i
  | .visit k h => .visit k h
  | .close k => .close k
  | .activate k s hasChildren now => .activate k s hasChildren (read now)
  | .navigate s => .navigate s

def counts (k : Kind) : Action τ → Bool
  | .activate j s hasChildren _ => j = k && hasChildren && s.location.isSome
  | .close j => j = k
  | _ => false

theorem timedCounts (read : σ → τ) (k : Kind) (a : Action σ) :
    (a.timed read).counts k = a.counts k := by
  cases a <;> rfl

end Action

/- The most recent click that can be the first of a pair. -/
def LastClick {σ : Type} (k : Kind) (before : List (Action σ)) (id : Option NodeId) (time : σ) :
    Prop :=
  ∃ earlier later s, before = earlier ++ .activate k s true time :: later ∧
    s.location.isSome = true ∧ s.id = id ∧ ∀ a ∈ later, a.counts k = false

section LastClick

variable {σ : Type} {k : Kind} {before : List (Action σ)}

theorem lastClickNone {id : Option NodeId} {time : σ} : ¬ LastClick k [] id time := by
  rintro ⟨earlier, later, s, split, _⟩
  simp at split

theorem lastClickSnoc {a : Action σ} {id : Option NodeId} {time : σ} :
    LastClick k (before ++ [a]) id time ↔
      (∃ s, a = .activate k s true time ∧ s.location.isSome = true ∧ s.id = id) ∨
        a.counts k = false ∧ LastClick k before id time := by
  constructor
  · rintro ⟨earlier, later, s, split, place, same, quiet⟩
    rcases List.eq_nil_or_concat later with rfl | ⟨rest, b, rfl⟩
    · obtain ⟨_, own⟩ := List.append_inj' split rfl
      exact .inl ⟨s, by simpa using own, place, same⟩
    · rw [List.concat_eq_append, ← List.cons_append, ← List.append_assoc] at split
      obtain ⟨old, own⟩ := List.append_inj' split rfl
      have last : a = b := by simpa using own
      refine .inr ⟨?_, earlier, rest, s, old, place, same, ?_⟩
      · exact last ▸ quiet b (by simp)
      · exact fun c mem => quiet c (by simp [mem])
  · rintro (⟨s, rfl, place, same⟩ | ⟨none, earlier, later, s, rfl, place, same, quiet⟩)
    · exact ⟨before, [], s, rfl, place, same, by simp⟩
    · refine ⟨earlier, later ++ [a], s, by simp, place, same, ?_⟩
      intro c mem
      rcases List.mem_append.mp mem with old | new
      · exact quiet c old
      · exact List.mem_singleton.mp new ▸ none

theorem lastClickOne {id id' : Option NodeId} {time time' : σ}
    (one : LastClick k before id time) (other : LastClick k before id' time') :
    id = id' ∧ time = time' := by
  induction before using List.reverseRecOn with
  | nil => exact (lastClickNone one).elim
  | append_singleton earlier a ih =>
    rcases lastClickSnoc.mp one with ⟨s, rfl, place, rfl⟩ | ⟨quiet, one⟩
    · rcases lastClickSnoc.mp other with ⟨s', same, _, rfl⟩ | ⟨quiet, _⟩
      · cases same
        exact ⟨rfl, rfl⟩
      · simp [Action.counts, place] at quiet
    · rcases lastClickSnoc.mp other with ⟨s', rfl, place, rfl⟩ | ⟨_, other⟩
      · simp [Action.counts, place] at quiet
      · exact ih one other

end LastClick

namespace Clicks

variable {τ : Type} (lapse : τ → τ → Lapse) (k : Kind)

def turned (m : Clicks τ) : Action τ → Clicks τ
  | .activate j s hasChildren now => if j = k then (m.activate lapse s hasChildren now).1 else m
  | .close j => if j = k then {} else m
  | _ => m

theorem turnedQuiet {m : Clicks τ} {a : Action τ} (quiet : a.counts k = false) :
    m.turned lapse k a = m := by
  cases a with
  | activate j s hasChildren now =>
    by_cases own : j = k
    · cases place : s.location <;> cases hasChildren <;>
        simp_all [turned, activate, Action.counts]
    · simp [turned, own]
  | close j =>
    have other : j ≠ k := by simpa [Action.counts] using quiet
    simp [turned, other]
  | _ => rfl

end Clicks

namespace Controller

theorem stepClicks {τ : Type} (paths : Paths) (lapse : τ → τ → Lapse) (c : Controller τ)
    (a : Action τ) (k : Kind) :
    (c.step paths lapse a).1.clicks.get k = (c.clicks.get k).turned lapse k a := by
  cases a with
  | activate j s hasChildren now =>
    by_cases own : j = k
    · subst own
      simp [step, Clicks.turned, PerKind.getSet]
    · simp [step, Clicks.turned, own, PerKind.getSetOther]
  | close j =>
    have kept : ((c.step paths lapse (.close j)).1.clicks) = c.clicks.set j {} := rfl
    by_cases own : j = k
    · subst own
      simp [kept, Clicks.turned, PerKind.getSet]
    · simp [kept, Clicks.turned, own, PerKind.getSetOther]
  | _ => rfl

theorem afterClicks {τ : Type} (paths : Paths) (lapse : τ → τ → Lapse) (c : Controller τ)
    (actions : List (Action τ)) (k : Kind) :
    (c.after paths lapse actions).clicks.get k =
      actions.foldl (Clicks.turned lapse k) (c.clicks.get k) := by
  induction actions generalizing c with
  | nil => rfl
  | cons a rest ih => rw [afterCons, ih, stepClicks, List.foldl_cons]

section Pairs

variable {σ : Type} (paths : Paths) (clock : Timepiece σ) (window : Reading)

def remembered (before : List (Action σ)) (k : Kind) : Clicks Reading :=
  (({} : Controller Reading).after paths (Reading.lapse window)
    (before.map (Action.timed clock.read))).clicks.get k

def clicked (before : List (Action σ)) (k : Kind) (s : Symbol) (hasChildren : Bool) (now : σ) :
    List Response :=
  ((({} : Controller Reading).after paths (Reading.lapse window)
    (before.map (Action.timed clock.read))).step paths (Reading.lapse window)
      (.activate k s hasChildren (clock.read now))).2

theorem rememberedNil (k : Kind) : remembered paths clock window [] k = {} := by
  cases k <;> rfl

theorem rememberedSnoc (before : List (Action σ)) (a : Action σ) (k : Kind) :
    remembered paths clock window (before ++ [a]) k =
      (remembered paths clock window before k).turned (Reading.lapse window) k
        (a.timed clock.read) := by
  simp only [remembered, afterClicks, List.map_append, List.foldl_append]
  rfl

theorem rememberedCounts (before : List (Action σ)) (k : Kind) :
    remembered paths clock window (before.filter (Action.counts k)) k =
      remembered paths clock window before k := by
  induction before using List.reverseRecOn with
  | nil => rfl
  | append_singleton earlier a ih =>
    cases quiet : a.counts k with
    | true => simp only [List.filter_append, List.filter_singleton, quiet, cond_true,
        rememberedSnoc, ih]
    | false =>
      have stays := Clicks.turnedQuiet (Reading.lapse window) k
        (m := remembered paths clock window earlier k) (a := a.timed clock.read)
        ((Action.timedCounts clock.read k a).trans quiet)
      simp only [List.filter_append, List.filter_singleton, quiet, cond_false, List.append_nil,
        rememberedSnoc, ih, stays]

inductive Remembers (clock : Timepiece σ) (k : Kind) (before : List (Action σ)) :
    Clicks Reading → Prop
  | nothing (none : ∀ id time, ¬ LastClick k before id time) : Remembers clock k before {}
  | click {id time} (last : LastClick k before id time) :
      Remembers clock k before ⟨id, some (clock.read time)⟩

theorem turnedClick {k : Kind} {before : List (Action σ)} {m : Clicks Reading} {s : Symbol}
    {now : σ} (knows : Remembers clock k before m) (place : s.location.isSome = true) :
    m.turned (Reading.lapse window) k (.activate k s true (clock.read now)) =
      ⟨s.id, some (clock.read now)⟩ := by
  have stands : s.location.isNone = false := by
    cases h : s.location <;> simp_all
  cases knows with
  | nothing => simp [Clicks.turned, Clicks.activate, stands]
  | @click id time _ =>
    by_cases same : s.id = id
    · rw [← same]
      simp only [Clicks.turned, Clicks.activate, stands, clock.lapse, if_true, Bool.not_true,
        Bool.false_eq_true, if_false]
      cases (clock.span time now).less window <;>
        cases (clock.span time now).toDouble?.isSome <;> rfl
    · simp [Clicks.turned, Clicks.activate, stands, same]

theorem rememberedKnows (before : List (Action σ)) (k : Kind) :
    Remembers clock k before (remembered paths clock window before k) := by
  induction before using List.reverseRecOn with
  | nil =>
    rw [rememberedNil]
    exact .nothing fun _ _ => lastClickNone
  | append_singleton earlier a ih =>
    rw [rememberedSnoc]
    generalize remembered paths clock window earlier k = m at ih
    cases counts : a.counts k with
    | false =>
      rw [Clicks.turnedQuiet _ _ ((Action.timedCounts clock.read k a).trans counts)]
      cases ih with
      | nothing none =>
        refine .nothing fun id time last => ?_
        rcases lastClickSnoc.mp last with ⟨s, rfl, place, _⟩ | ⟨_, old⟩
        · simp [Action.counts, place] at counts
        · exact none id time old
      | click last => exact .click (lastClickSnoc.mpr (.inr ⟨counts, last⟩))
    | true =>
      cases a with
      | activate j s hasChildren now =>
        simp only [Action.counts, Bool.and_eq_true, decide_eq_true_eq] at counts
        obtain ⟨⟨rfl, rfl⟩, place⟩ := counts
        simp only [Action.timed]
        rw [turnedClick clock window ih place]
        exact .click (lastClickSnoc.mpr (.inl ⟨s, rfl, place, rfl⟩))
      | close j =>
        have own : j = k := by simpa [Action.counts] using counts
        subst own
        simp only [Action.timed, Clicks.turned, if_true]
        refine .nothing fun id time last => ?_
        rcases lastClickSnoc.mp last with ⟨s, told, _⟩ | ⟨quiet, _⟩
        · cases told
        · simp [Action.counts] at quiet
      | _ => cases counts

def Goes (s : Symbol) (rs : List Response) : Prop :=
  ∃ l, s.location = some l ∧
    rs = [.navigated { l with uri := paths.toClient l.uri } true, .activated true]

/- A click is the second one on its node, a span within the window after the first. -/
def Second (before : List (Action σ)) (k : Kind) (s : Symbol) (now : σ) (span : Reading) : Prop :=
  ∃ first, LastClick k before s.id first ∧ span = clock.span first now ∧ span.less window = true

/- Clicks pair as their history says. A span in the window that no double can hold is not told:
the click then fails, and still counts for later ones. -/
structure Paired : Prop where
  goes : ∀ before k s hasChildren now,
    Goes paths s (clicked paths clock window before k s hasChildren now) ↔
      s.location.isSome = true ∧ (hasChildren = false ∨
        ∃ span, Second clock window before k s now span ∧ span.toDouble?.isSome = true)
  fails : ∀ before k s hasChildren now,
    clicked paths clock window before k s hasChildren now = [.failed .notDouble] ↔
      s.location.isSome = true ∧ hasChildren = true ∧
        ∃ span, Second clock window before k s now span ∧ span.toDouble?.isSome = false
  stays : ∀ before k s hasChildren now,
    let told := clicked paths clock window before k s hasChildren now
    Goes paths s told ∨ told = [.failed .notDouble] ∨ told = [.activated false]
  blind : ∀ before k s hasChildren now,
    clicked paths clock window before k s hasChildren now =
      clicked paths clock window (before.filter (Action.counts k)) k s hasChildren now

def answered (s : Symbol) : Except Raised Bool → List Response
  | .ok b => (if b then navigate paths s else []) ++ [.activated b]
  | .error cause => [.failed cause]

variable {paths clock window} {before : List (Action σ)} {k : Kind} {s : Symbol} {now : σ}

theorem clickedAnswered (hasChildren : Bool) :
    clicked paths clock window before k s hasChildren now =
      answered paths s ((remembered paths clock window before k).activate
        (Reading.lapse window) s hasChildren (clock.read now)).2 := rfl

theorem clickedNowhere (hasChildren : Bool) (nowhere : s.location.isSome = false) :
    clicked paths clock window before k s hasChildren now = [.activated false] := by
  have none : s.location.isNone = true := by
    cases place : s.location <;> simp_all
  simp [clickedAnswered, Clicks.activate, none, answered]

theorem clickedLeaf {l : Location} (place : s.location = some l) :
    clicked paths clock window before k s false now =
      [.navigated { l with uri := paths.toClient l.uri } true, .activated true] := by
  simp [clickedAnswered, Clicks.activate, place, answered, navigate]

theorem clickedFirst (alone : ∀ first, ¬ LastClick k before s.id first) :
    clicked paths clock window before k s true now = [.activated false] := by
  have knows := rememberedKnows paths clock window before k
  rw [clickedAnswered]
  generalize remembered paths clock window before k = m at knows
  cases place : s.location with
  | none => simp [Clicks.activate, place, answered]
  | some l =>
    cases knows with
    | nothing => simp [Clicks.activate, place, answered]
    | @click id time last =>
      have apart : s.id ≠ id := by
        rintro rfl
        exact alone time last
      simp [Clicks.activate, place, apart, answered]

theorem clickedAgain {first : σ} {l : Location} (last : LastClick k before s.id first)
    (place : s.location = some l) :
    clicked paths clock window before k s true now =
      if (clock.span first now).less window then
        if (clock.span first now).toDouble?.isSome then
          [.navigated { l with uri := paths.toClient l.uri } true, .activated true]
        else [.failed .notDouble]
      else [.activated false] := by
  have knows := rememberedKnows paths clock window before k
  rw [clickedAnswered]
  generalize remembered paths clock window before k = m at knows
  cases knows with
  | nothing none => exact (none _ _ last).elim
  | click other =>
    obtain ⟨same, rfl⟩ := lastClickOne last other
    simp only [Clicks.activate, place, Option.isNone_some, Bool.false_eq_true, if_false,
      Bool.not_true, same, if_true, clock.lapse]
    cases (clock.span first now).less window <;>
      cases (clock.span first now).toDouble?.isSome <;>
        simp [Clicks.again, answered, navigate, place]

theorem secondAt {first : σ} (last : LastClick k before s.id first) (P : Reading → Prop) :
    (∃ span, Second clock window before k s now span ∧ P span) ↔
      (clock.span first now).less window = true ∧ P (clock.span first now) := by
  constructor
  · rintro ⟨span, ⟨first', other, rfl, within⟩, holds⟩
    obtain ⟨_, rfl⟩ := lastClickOne last other
    exact ⟨within, holds⟩
  · rintro ⟨within, holds⟩
    exact ⟨_, ⟨first, last, rfl, within⟩, holds⟩

theorem secondFirst {span : Reading} (second : Second clock window before k s now span) :
    ∃ first, LastClick k before s.id first := by
  obtain ⟨first, last, _⟩ := second
  exact ⟨first, last⟩

theorem goesAt {l : Location} (place : s.location = some l) (rs : List Response) :
    Goes paths s rs ↔
      rs = [.navigated { l with uri := paths.toClient l.uri } true, .activated true] := by
  simp [Goes, place]

theorem clickEnds (hasChildren : Bool) :
    let told := clicked paths clock window before k s hasChildren now
    (Goes paths s told ↔ s.location.isSome = true ∧ (hasChildren = false ∨
        ∃ span, Second clock window before k s now span ∧ span.toDouble?.isSome = true)) ∧
      (told = [.failed .notDouble] ↔ s.location.isSome = true ∧ hasChildren = true ∧
        ∃ span, Second clock window before k s now span ∧ span.toDouble?.isSome = false) ∧
      (Goes paths s told ∨ told = [.failed .notDouble] ∨ told = [.activated false]) := by
  intro told
  cases place : s.location with
  | none =>
    have stays : told = [.activated false] := clickedNowhere hasChildren (by simp [place])
    simp [stays, Goes, place]
  | some l =>
    rw [goesAt place]
    cases hasChildren with
    | false =>
      have goes : told = _ := clickedLeaf place
      simp [goes]
    | true =>
      by_cases first : ∃ first, LastClick k before s.id first
      · obtain ⟨first, last⟩ := first
        have again : told = _ := clickedAgain last place
        rw [again, secondAt last, secondAt last]
        cases (clock.span first now).less window <;>
          cases (clock.span first now).toDouble?.isSome <;> simp
      · have stays : told = [.activated false] := clickedFirst fun time last => first ⟨time, last⟩
        have none : ∀ span, ¬ Second clock window before k s now span :=
          fun span second => first (secondFirst second)
        simp [stays, none]

end Pairs

/- All clocks are served; every whole number that rounds to a double is told. -/
theorem clicksPaired :
    (∀ (σ : Type) (paths : Paths) (clock : Timepiece σ) (window : Reading),
      Paired paths clock window) ∧
    ∀ n : Int, (Reading.exact n).toDouble?.isSome = decide (n.natAbs < 2 ^ 1024 - 2 ^ 970) := by
  refine ⟨fun σ paths clock window => ⟨?_, ?_, ?_, ?_⟩, Reading.wholeDouble⟩
  · intro before k s hasChildren now
    exact (clickEnds hasChildren).1
  · intro before k s hasChildren now
    exact (clickEnds hasChildren).2.1
  · intro before k s hasChildren now
    exact (clickEnds hasChildren).2.2
  · intro before k s hasChildren now
    rw [clickedAnswered, clickedAnswered, rememberedCounts]

def placedSymbol : Symbol :=
  ⟨some (.int 2), "n2", none, some ⟨"file:///s/a.cpp", ⟨⟨2, 0⟩, ⟨2, 3⟩⟩⟩⟩

/- A second click far before the first is within every window, and its span is beyond all
doubles: it fails, and nothing is gone to. -/
theorem farSpanUntold :
    ¬ ∀ (before : List (Action Int)) (k : Kind) (s : Symbol) (first now : Int),
      s.location.isSome = true → LastClick k before s.id first → now - first < 500 →
        Goes {} s (clicked {} .whole (.exact 500) before k s true now) := by
  intro claimed
  have last : LastClick .call [.activate .call placedSymbol true 0] placedSymbol.id (0 : Int) :=
    ⟨[], [], placedSymbol, rfl, rfl, rfl, by simp⟩
  obtain ⟨l, _, goes⟩ := claimed _ _ _ 0 (-10 ^ 400) rfl last (by decide +kernel)
  have fails : clicked {} .whole (.exact 500) [.activate .call placedSymbol true 0] .call
      placedSymbol true (-10 ^ 400) = [.failed .notDouble] := by
    rw [clickedAgain last rfl]
    have within : (Timepiece.whole.span 0 (-10 ^ 400)).less (.exact 500) = true := by decide +kernel
    have beyond : (Timepiece.whole.span 0 (-10 ^ 400)).toDouble?.isSome = false := by decide +kernel
    rw [within, beyond]
    rfl
  rw [fails] at goes
  cases goes

end Controller
end SymbolHierarchy
