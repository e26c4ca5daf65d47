import SymbolHierarchy.Proofs.View.Legible
import SymbolHierarchy.Proofs.View.Unfolding
import SymbolHierarchy.Proofs.View.Visit
import SymbolHierarchy.Proofs.View.Walked

/-! Laying a hierarchy open, of either kind and whatever a server answers, comes to an end with an
outline. What a visit tells stays true while the siblings that follow are visited, since no node is
below two of them; so the outline agrees with the forest as the whole walk leaves it. Only a label
that cannot be made ends the walk before. -/
namespace SymbolHierarchy

inductive Forest.Within (f : Forest) : Nat → Handle → Handle → Prop
  | self {depth h} : Within f depth h h
  | child {depth h a y} (mem : a ∈ f.childrenAt h) (within : Within f depth a y) :
      Within f (depth + 1) h y

def Contains {σ : Type} (serve : Serving σ) : Prop :=
  ∀ params s e, (serve params s).1 = .error e → e.isHierarchy = true

namespace Session

theorem decodeKind {s s' : Session} (kind : s.kind = s'.kind) (r : Reply) :
    s.decode r = s'.decode r := by
  simp [decode, kind]

theorem refusedContained {s : Session} {r : Reply} {e : Fault} (refused : s.decode r = .error e)
    (contained : ∀ f, r = .error f → f.isHierarchy = true) : e.isHierarchy = true := by
  cases r with
  | error f =>
    cases refused
    exact contained e rfl
  | ok w =>
    cases read : Node.ofWire s.kind.model w <;> simp [decode, bind, Except.bind, read] at refused
    subst refused
    rfl

end Session

namespace Served

variable {σ : Type} {k : Kind} {serve : Serving σ} {v v' : Served (σ × List Exchange)}
  {h : Handle} {c : Cell}

theorem heardNoted {params : Json} {r : Reply} {s s' : σ × List Exchange}
    (answered : heard serve params s = (r, s')) : s'.2 = s.2 ++ [(params, r)] := by
  cases answered
  rfl

theorem listsComes {hs : List Handle} (live : v.Live k) (found : v.session.forest[h]? = some c)
    (opens : c.isExpandable = true) (lists : Lists (heard serve) v h c v' (.ok hs)) :
    ∃ u : Upshot, u.leaf? = none ∧ v'.server.2 = v.server.2 ++ u.exchange?.toList ∧
      Visit.Comes k v'.session.forest h c u hs := by
  have shown : (v.session.viewed h).forest[h]? = some c.shown := Forest.shownCell found
  have length : (v.session.viewed h).forest.length = v.session.forest.length :=
    Forest.shownLength _ _
  have kind := live.reached.kind
  cases lists with
  | held full => exact ⟨.held, rfl, (List.append_nil _).symm, .held opens full shown⟩
  | @fetched params w server n bare known answered read =>
    refine ⟨.fetched params w, rfl, heardNoted answered, ?_⟩
    refine .fetched (n := n) opens bare (kind ▸ known) (kind ▸ read) ?_ ?_
    · rw [placesCount, Session.newChildren, Session.adoptedCount]
    · rw [← length]
      exact Session.grownTarget shown

theorem listsFails {e : Fault} (live : v.Live k) (found : v.session.forest[h]? = some c)
    (opens : c.isExpandable = true) (lists : Lists (heard serve) v h c v' (.error e)) :
    ∃ params r, v'.server.2 = v.server.2 ++ [(params, r)] ∧
      Visit.Comes k v'.session.forest h c (.failed params r e) [] := by
  have kind := live.reached.kind
  cases lists with
  | @failed params r server e bare known answered refused =>
    refine ⟨params, r, heardNoted answered, .failed opens bare (kind ▸ known) ?_ ?_⟩
    · exact (Session.decodeKind kind.symm r).trans refused
    · exact Forest.shownCell found

theorem listsContained {e : Fault} (contained : Contains serve)
    (lists : Lists (heard serve) v h c v' (.error e)) : e.isHierarchy = true := by
  cases lists with
  | @failed params r server e bare known answered refused =>
    refine Session.refusedContained refused fun f failed => contained params v.server.1 f ?_
    exact (congrArg Prod.fst answered).trans failed

end Served

namespace Outline
open Served

variable {σ : Type} {k : Kind} {serve : Serving σ} {icons : IconTheme} {depth : Nat}
  {v v' : Served (σ × List Exchange)} {os : List Outline} {h p : Nat}
  {below : Handle → Served (σ × List Exchange) →
    Served (σ × List Exchange) × Except Raised (List Outline)}

theorem labelCell {f : Forest} {c : Cell} (found : f[h]? = some c) :
    labelOf icons f h = c.face.styledLabel icons := by
  simp [labelOf, found]

structure Told (k : Kind) (icons : IconTheme) (depth : Nat) (h : Handle) (c : Cell)
    (v v' : Served (σ × List Exchange)) (os : List Outline) (x : Visit) : Prop where
  node : x.node = h
  cell : x.cell = c
  drawn : ∀ label, c.face.styledLabel icons = .ok label → x.drawn icons = .ok (.branch label os)
  asked : v'.server.2 = v.server.2 ++ x.exchanges
  agrees : x.Agrees k v'.session.forest depth

structure Tells (k : Kind) (icons : IconTheme) (depth : Nat)
    (below : Handle → Served (σ × List Exchange) →
      Served (σ × List Exchange) × Except Raised (List Outline)) : Prop where
  walked : ∀ a u, u.Live k → Walked k u (below a u).1 [a]
  told : ∀ {a u u' c os}, u.Live k → u.session.forest[a]? = some c → below a u = (u', .ok os) →
    ∃ x, Told k icons depth a c u u' os x

theorem toldKept {x : Visit} {rest : List Handle} (live : v.Live k)
    (agrees : x.Agrees k v.session.forest depth) (walked : Walked k v v' rest)
    (own : x.node ∈ v.session.forest.childrenAt p)
    (others : ∀ b ∈ rest, b ∈ v.session.forest.childrenAt p) (apart : x.node ∉ rest) :
    x.Agrees k v'.session.forest depth := by
  refine Visit.agreesKept agrees fun y mem => walked.kept y ?_ fun b later under => ?_
  · have inside := (live.ordered p x.node own).2
    exact Forest.belowInside live.ordered inside (Visit.agreesBelow agrees y mem)
  · have different : x.node ≠ b := fun same => apart (same ▸ later)
    exact Forest.siblingsApart live.ordered live.sole own (others b later) different
      (Visit.agreesBelow agrees y mem) under

theorem siblingsTold (tells : Tells k icons depth below) {hs : List Handle} (live : v.Live k)
    (own : ∀ a ∈ hs, a ∈ v.session.forest.childrenAt p) (distinct : hs.Nodup)
    (laid : siblings icons below hs v = (v', .ok os)) :
    ∃ xs : List Visit, xs.map Visit.node = hs ∧ xs.map (Visit.drawn icons) = os.map .ok ∧
      (∀ x ∈ xs, x.Agrees k v'.session.forest depth) ∧
      v'.server.2 = v.server.2 ++ xs.flatMap Visit.exchanges := by
  induction hs generalizing v os with
  | nil =>
    cases laid
    exact ⟨[], rfl, rfl, by simp, (List.append_nil _).symm⟩
  | cons a rest ih =>
    have passes := siblingsPass icons below a rest v
    rw [laid] at passes
    cases passes with
    | @passes label u front _ more labelled first later =>
      obtain ⟨alone, distinct⟩ := List.nodup_cons.mp distinct
      have mine := own a List.mem_cons_self
      have range := live.ordered p a mine
      obtain ⟨c, found⟩ : ∃ c, v.session.forest[a]? = some c :=
        ⟨_, List.getElem?_eq_getElem range.2⟩
      have walked := tells.walked a v live
      obtain ⟨x, told⟩ := tells.told live found first
      rw [first] at walked
      -- the walk below the first child left their parent alone, so the others are siblings still
      have parent : u.session.forest.childrenAt p = v.session.forest.childrenAt p := by
        have same := walked.parent live (Nat.lt_trans range.1 range.2) (by simpa using mine)
        rw [Forest.childrenAt, same, Forest.childrenAt]
      have own' : ∀ b ∈ a :: rest, b ∈ u.session.forest.childrenAt p := parent ▸ own
      obtain ⟨xs, nodes, drawn, agrees, asked⟩ :=
        ih walked.live (fun b mem => own' b (List.mem_cons_of_mem a mem)) distinct later
      have after := siblingsWalked icons tells.walked rest walked.live
      rw [later] at after
      rw [labelCell found] at labelled
      refine ⟨x :: xs, by simp [told.node, nodes], ?_, ?_, ?_⟩
      · simp [told.drawn label labelled, drawn]
      · rintro y (_ | ⟨_, mem⟩)
        · exact toldKept walked.live told.agrees after (told.node ▸ own' a List.mem_cons_self)
            (fun b mem => own' b (List.mem_cons_of_mem a mem)) (told.node ▸ alone)
        · exact agrees y mem
      · rw [asked, told.asked, List.flatMap_cons, List.append_assoc]

theorem restsTold {c : Cell} (agrees : (Visit.mk h c .rested []).Agrees k v.session.forest depth) :
    Told k icons depth h c v v [] (.mk h c .rested []) where
  node := rfl
  cell := rfl
  drawn label labelled := (Visit.drawnPlace h c .rested []).mpr ⟨label, [], labelled, rfl, rfl⟩
  asked := by simp [Visit.exchangesPlace, Upshot.exchange?]
  agrees := agrees

theorem siblingsParent (icons : IconTheme) {c : Cell} {u : Served (σ × List Exchange)}
    {hs : List Handle} (walks : ∀ a u, u.Live k → Walked k u (below a u).1 [a]) (live : v.Live k)
    (found : v.session.forest[h]? = some c) (lists : Lists (heard serve) v h c u (.ok hs))
    (reached : u.session.Reached k) :
    (siblings icons below hs u).1.session.forest[h]? = u.session.forest[h]? := by
  have walked := listsWalked live found lists reached
  have there : h < u.session.forest.length :=
    Nat.lt_of_lt_of_le (List.getElem?_eq_some_iff.mp found).1 walked.longer
  exact (siblingsWalked icons walks hs walked.live).parent walked.live there
    fun _ mem => listsHeld found lists ▸ mem

theorem listedTold {c : Cell} {u : Served (σ × List Exchange)} {hs : List Handle}
    (tells : Tells k icons depth below) (live : v.Live k) (found : v.session.forest[h]? = some c)
    (opens : c.isExpandable = true) (lists : Lists (heard serve) v h c u (.ok hs))
    (reached : u.session.Reached k) (laid : siblings icons below hs u = (v', .ok os)) :
    ∃ x, Told k icons (depth + 1) h c v v' os x := by
  have walked := listsWalked live found lists reached
  have held := listsHeld found lists
  obtain ⟨up, plain, noted, comes⟩ := listsComes live found opens lists
  obtain ⟨xs, nodes, drawn, agrees, asked⟩ := siblingsTold tells walked.live
    (p := h) (fun a mem => held ▸ mem) (held ▸ walked.live.sole.distinct h) laid
  have same := siblingsParent icons tells.walked live found lists reached
  rw [laid] at same
  refine ⟨.mk h c up xs, rfl, rfl, fun label labelled => ?_, ?_, ?_, agrees⟩
  · exact (Visit.drawnPlace h c up xs).mpr ⟨label, os, labelled, drawn, by simp [plain]⟩
  · rw [asked, noted, Visit.exchangesPlace, List.append_assoc]
  · exact nodes ▸ Visit.comesKept comes same

theorem failedTold {c : Cell} {e : Fault} (live : v.Live k)
    (found : v.session.forest[h]? = some c) (opens : c.isExpandable = true)
    (lists : Lists (heard serve) v h c v' (.error e)) :
    ∃ x, Told k icons (depth + 1) h c v v' [failure e] x := by
  obtain ⟨params, r, noted, comes⟩ := listsFails live found opens lists
  refine ⟨.mk h c (.failed params r e) [], rfl, rfl, fun label labelled => ?_, ?_, comes, by simp⟩
  · exact (Visit.drawnPlace h c _ []).mpr ⟨label, [], labelled, rfl, rfl⟩
  · rw [noted, Visit.exchangesPlace]
    rfl

theorem growTold (serve : Serving σ) (icons : IconTheme) (depth : Nat) :
    Tells k icons depth (grow (heard serve) icons depth) := by
  have walks : ∀ (depth : Nat) a u, u.Live k →
      Walked k u (grow (heard serve) icons depth a u).1 [a] :=
    fun depth a u live => growWalked (heard serve) icons depth a live
  induction depth with
  | zero =>
    refine ⟨walks 0, fun {a v v' c os} live found grown => ?_⟩
    cases grown
    exact ⟨_, restsTold ⟨rfl, rfl, found⟩⟩
  | succ depth ih =>
    refine ⟨walks (depth + 1), fun {a v v' c os} live found grown => ?_⟩
    have grows := growGrows (heard serve) icons depth live found
    generalize grow (heard serve) icons (depth + 1) a v = r at grows grown
    cases grows with
    | rests leaf =>
      cases grown
      exact ⟨_, restsTold ⟨.rested leaf found, by simp⟩⟩
    | opens opens lists reached => exact listedTold ih live found opens lists reached grown
    | fails opens lists =>
      cases grown
      exact failedTold live found opens lists
    | raises => cases grown

def Unlabelled (icons : IconTheme) (depth : Nat) (h : Handle) (f : Forest) (e : Raised) : Prop :=
  ∃ y, f.Within depth h y ∧ labelOf icons f y = .error e

theorem siblingsFail {e : Raised} {hs : List Handle}
    (walks : ∀ a u, u.Live k → Walked k u (below a u).1 [a])
    (fails : ∀ {a u u'}, u.Live k → below a u = (u', .error e) →
      Unlabelled icons depth a u'.session.forest e)
    (live : v.Live k) (laid : siblings icons below hs v = (v', .error e)) :
    ∃ a ∈ hs, Unlabelled icons depth a v'.session.forest e := by
  induction hs generalizing v with
  | nil => cases laid
  | cons a rest ih =>
    have own := walks a v live
    have passes := siblingsPass icons below a rest v
    rw [laid] at passes
    cases passes with
    | unlabelled labelled => exact ⟨a, List.mem_cons_self, a, .self, labelled⟩
    | stops first => exact ⟨a, List.mem_cons_self, fails live first⟩
    | ends first later =>
      rw [first] at own
      obtain ⟨b, mem, unlabelled⟩ := ih own.live later
      exact ⟨b, List.mem_cons_of_mem a mem, unlabelled⟩

theorem growFails {e : Raised} (contained : Contains serve) (live : v.Live k)
    (grown : grow (heard serve) icons depth h v = (v', .error e)) :
    Unlabelled icons depth h v'.session.forest e := by
  induction depth generalizing v v' h with
  | zero => cases grown
  | succ depth ih =>
    cases found : v.session.forest[h]? with
    | none => simp [grow, found] at grown
    | some c =>
      have grows := growGrows (heard serve) icons depth live found
      generalize grow (heard serve) icons (depth + 1) h v = r at grows grown
      cases grows with
      | rests => cases grown
      | fails => cases grown
      | raises lists =>
        have kind := listsContained contained lists
        simp [Fault.isHierarchy] at kind
      | opens opens lists reached =>
        have walked := listsWalked live found lists reached
        have held := listsHeld found lists
        have walks := (growTold (k := k) serve icons depth).walked
        have same := siblingsParent icons walks live found lists reached
        rw [grown] at same
        obtain ⟨a, mem, y, within, unlabelled⟩ := siblingsFail walks ih walked.live grown
        rw [← held, Forest.childrenAt, ← same] at mem
        exact ⟨y, .child mem within, unlabelled⟩

/- A hierarchy that is laid open, told by a visit to its root: what is drawn of the visits goes no
deeper than was asked for, no node is visited twice, what was asked on the way is what the visits
tell, and all of them agree with the nodes as these stand in the end. -/
structure LaidOpen (k : Kind) (icons : IconTheme) (depth : Nat) (root : Handle)
    (v v' : Served (σ × List Exchange)) (o : Outline) (x : Visit) : Prop where
  node : x.node = root
  cell : v.session.forest[root]? = some x.cell
  active : v'.session.root = some root
  drawn : x.drawn icons = .ok o
  height : o.height ≤ depth
  once : x.nodes.Nodup
  asked : v'.server.2 = v.server.2 ++ x.exchanges
  few : x.exchanges.length ≤ (x.above depth).length
  agrees : x.Agrees k v'.session.forest depth

/- Whatever a server fails with or sends, and whenever it does, the hierarchy of a session is laid
open to the depth that is asked for, if all labels that are come to can be made. A node whose
request failed is as it was and has one leaf that tells why; any other that is laid open shows just
the children that it holds in the end. Nobody is asked for children of the last level. -/
theorem everyHierarchyLaidOpen {root : Handle} {r : Except Raised Outline}
    (reached : v.session.Reached k) (active : v.session.root = some root)
    (contained : Contains serve) (built : build (heard serve) icons depth root v = (v', r))
    (renders : ∀ y, v'.session.forest.Within depth root y →
      ∃ label, labelOf icons v'.session.forest y = .ok label) :
    ∃ o x, r = .ok o ∧ LaidOpen k icons depth root v v' o x := by
  have live : v.Live k := ⟨reached, root, active⟩
  have walked := growWalked (heard serve) icons depth root live
  obtain ⟨c, found⟩ : ∃ c, v.session.forest[root]? = some c :=
    ⟨_, List.getElem?_eq_getElem (live.grounded.root root active)⟩
  cases labelled : labelOf icons v.session.forest root with
  | error e =>
    simp only [build, labelled] at built
    cases built
    obtain ⟨text, made⟩ := renders root .self
    cases labelled.symm.trans made
  | ok label =>
    rcases grown : grow (heard serve) icons depth root v with ⟨u, e | os⟩ <;>
      simp only [build, labelled, grown] at built <;> cases built
    · obtain ⟨y, within, failed⟩ := growFails contained live grown
      obtain ⟨text, made⟩ := renders y within
      cases failed.symm.trans made
    · rw [grown] at walked
      rw [labelCell found] at labelled
      obtain ⟨x, told⟩ := (growTold serve icons depth).told live found grown
      have drawn := told.drawn label labelled
      refine ⟨_, x, rfl, ?_⟩
      exact {
        node := told.node
        cell := told.cell ▸ found
        active := walked.root.trans active
        drawn
        height := Visit.agreesHeight told.agrees drawn
        once := Visit.agreesOnce walked.live.ordered walked.live.sole told.agrees
        asked := told.asked
        few := Visit.agreesFew told.agrees
        agrees := told.agrees }

def callerWire (id : Nat) (count : Nat) (callers : List Json) : Json :=
  .object [("id", .int id), ("name", .text "f"), ("numChildren", .int count),
    ("children", .list callers)]

def begun : Served (Nat × List Exchange) where
  session := (Session.fresh .call).after [.open outset, .reply 0 (.ok (callerWire 0 3
    [callerWire 1 1 [], callerWire 2 1 [], callerWire 3 1 []]))]
  server := (0, [])

def broken : Serving Nat
  | _, 0 => (.error (.backend "$ccls/call" none), 1)
  | _, 1 => (.ok (.text "f"), 2)
  | _, n => (.ok (callerWire n 1 [callerWire (n + 1) 1 []]), n + 1)

theorem brokenContained : Contains broken := by
  rintro _ (_ | _ | n) e failed <;> cases failed
  rfl

theorem placelessLabelled {f : Forest} (icons : IconTheme)
    (placeless : ∀ c ∈ f, c.symbol.location = none) (y : Handle) :
    ∃ label, labelOf icons f y = .ok label := by
  cases found : f[y]? with
  | none => exact ⟨"", by simp [labelOf, found]⟩
  | some c =>
    have located : c.face.symbol.location = none := placeless c (List.mem_of_getElem? found)
    have passes : c.face.checked = .ok () := Face.passesExactly.mpr (.inr (by simp [located]))
    have styled := (Face.everyFaceDrawn icons c.face).styled
    rw [passes] at styled
    rw [labelCell found]
    exact styled

theorem brokenLaidOpen : Contains broken ∧ begun.session.root = some 0 ∧
    ∃ v o x, build (heard broken) {} 3 0 begun = (v, .ok o) ∧
      LaidOpen .call {} 3 0 begun v o x ∧ x.exchanges.length = 4 := by
  have active : begun.session.root = some 0 := by decide +kernel
  have placeless : ∀ c ∈ (build (heard broken) {} 3 0 begun).1.session.forest,
      c.symbol.location = none := by decide +kernel
  have noted : (build (heard broken) {} 3 0 begun).1.server.2.length = 4 := by decide +kernel
  rcases built : build (heard broken) {} 3 0 begun with ⟨v, r⟩
  rw [built] at placeless noted
  obtain ⟨o, x, rfl, laid⟩ := everyHierarchyLaidOpen (k := .call) ⟨_, rfl⟩ active brokenContained
    built fun y _ => placelessLabelled {} placeless y
  refine ⟨brokenContained, active, v, o, x, rfl, laid, ?_⟩
  rw [laid.asked] at noted
  simpa [begun] using noted

end Outline
end SymbolHierarchy
