import SymbolHierarchy.Proofs.Session.Delivery
import SymbolHierarchy.Proofs.View.Answering
import SymbolHierarchy.Proofs.View.Sight

/-! A call hierarchy laid open against a server that tells of a graph. A walk changes no place but
those it passes, so what a payload put down is still there when the walk comes to it; what is drawn
is the graph, unfolded as deep as was asked for. -/
namespace SymbolHierarchy

structure Session.Walking (s : Session) : Prop extends s.Prompt where
  active : ∃ top, s.root = some top

theorem Session.Walking.issued {s : Session} (walking : s.Walking) (f : Forest) :
    ({ s with issued := s.issued + 1, forest := f } : Session).Walking where
  kind := walking.kind
  young w mem := Nat.lt_succ_of_lt (walking.young w mem)
  active := walking.active

def heard {σ : Type} (serve : Serving σ) : Serving (σ × List Exchange) := fun params s =>
  ((serve params s.1).1, (serve params s.1).2, s.2 ++ [(params, (serve params s.1).1)])

section Walk

variable {σ : Type} {g : Graph} {icons : IconTheme} {levels depth : Nat} {i : NodeId} {w : Json}
  {n : Node} {h base size : Nat} {v v' : Served (σ × List Exchange)}

structure Passed (v v' : Served (σ × List Exchange)) (base size : Nat) (log : List Exchange) :
    Prop where
  walking : v'.session.Walking
  longer : v.session.forest.length ≤ v'.session.forest.length
  kept : ∀ x < v.session.forest.length, x < base ∨ base + size ≤ x →
    v'.session.forest[x]? = v.session.forest[x]?
  told : v'.server.2 = v.server.2 ++ log

theorem Passed.append {u : Served (σ × List Exchange)} {more : Nat} {front back : List Exchange}
    (first : Passed v u base size front) (second : Passed u v' (base + size) more back) :
    Passed v v' base (size + more) (front ++ back) where
  walking := second.walking
  longer := Nat.le_trans first.longer second.longer
  kept x old out := by
    rw [second.kept x (by have := first.longer; omega) (by omega), first.kept x old (by omega)]
  told := by rw [second.told, first.told, List.append_assoc]

theorem Passed.widen {u : Served (σ × List Exchange)} {inner : Nat} {front log : List Exchange}
    (passed : Passed u v' base inner log)
    (longer : v.session.forest.length ≤ u.session.forest.length)
    (same : ∀ x < v.session.forest.length, x < h ∨ h + size ≤ x →
      u.session.forest[x]? = v.session.forest[x]? ∧ (x < base ∨ base + inner ≤ x))
    (told : u.server.2 = v.server.2 ++ front) : Passed v v' h size (front ++ log) where
  walking := passed.walking
  longer := Nat.le_trans longer passed.longer
  kept x old out := by
    obtain ⟨before, outside⟩ := same x old out
    rw [passed.kept x (Nat.lt_of_lt_of_le old longer) outside, before]
  told := by rw [passed.told, told, List.append_assoc]

theorem Passed.rest {ns : List Node} {log : List Exchange} (passed : Passed v v' base n.size log)
    (holds : v.session.forest.Holds base (Node.cellsAll base (n :: ns))) :
    v'.session.forest.Holds (base + n.size) (Node.cellsAll (base + n.size) ns) := by
  have back : v.session.forest.Holds (base + n.size) (Node.cellsAll (base + n.size) ns) := by
    have whole : v.session.forest.Holds base
        (n.cells base ++ Node.cellsAll (base + n.size) ns) := holds
    simpa only [cellsCount] using whole.back
  exact back.kept fun x old from_ _ => passed.kept x old (.inr from_)

theorem cellOpens (pictures : g.Pictures i w n) (called : g.callers i ≠ []) (base : Nat) :
    (n.cell base).isExpandable = true := by
  have count := List.length_pos_iff.mpr called
  simp [Cell.isExpandable, Node.cell, pictures.count, count]

theorem cellFull (pictures : g.Pictures i w n) (base : Nat) :
    (n.cell base).isMaterialized = true ↔ w.carried.length = (g.callers i).length := by
  simp only [Cell.isMaterialized, Node.cell, placesCount, pictures.count, pictures.carried,
    beq_iff_eq]
  omega

theorem cellShort (pictures : g.Pictures i w n) (called : g.callers i ≠ []) (bare : w.carried = [])
    (base : Nat) : (n.cell base).isMaterialized = false := by
  have count := List.length_pos_iff.mpr called
  have full := cellFull pictures base
  rw [bare, List.length_nil] at full
  exact Bool.eq_false_iff.mpr fun filled => by have := full.mp filled; omega

theorem ownLabel (icons : IconTheme) (pictures : g.Pictures i w n)
    (holds : v.session.forest.Holds base (n.cells base)) :
    Outline.labelOf icons v.session.forest base = g.title icons i w := by
  have same : (n.cell (base + 1)).face = n.face := by
    simp [Cell.face, Node.cell, Node.face, placesCount]
  rw [Outline.labelOf, holds.own]
  exact (congrArg (Face.styledLabel icons) same).trans (Graph.picturedTitle pictures icons)

def Unfolded (g : Graph) (icons : IconTheme) (depth : Nat) (i : NodeId) (w : Json)
    (v : Served (σ × List Exchange)) (base size : Nat)
    (r : Served (σ × List Exchange) × Except Raised (List Outline)) : Prop :=
  ∃ reply below os, r.2 = .ok os ∧ below.map (Sight.drawn g icons) = os.map .ok ∧
    (Sight.mk i w reply below).unfolding = g.unfold depth i ∧
    (Sight.mk i w reply below).Fed g depth ∧
    Passed v r.1 base size (Sight.mk i w reply below).exchanges

def Lays (g : Graph) (icons : IconTheme) (depth levels : Nat)
    (below : Handle → Served (σ × List Exchange) →
      Served (σ × List Exchange) × Except Raised (List Outline)) : Prop :=
  ∀ ⦃i w n h v⦄, g.Reports levels i w → Node.Reads .call levels w n → v.session.Walking →
    v.session.forest.Holds h (n.cells h) → Unfolded g icons depth i w v h n.size (below h v)

theorem siblingsSeen {below : Handle → Served (σ × List Exchange) →
      Served (σ × List Exchange) × Except Raised (List Outline)}
    (renders : g.Renderable) (lays : Lays g icons depth levels below)
    {is : List NodeId} {ws : List Json} {ns : List Node}
    (reports : List.Forall₂ (g.Reports levels) is ws)
    (reads : List.Forall₂ (Node.Reads .call levels) ws ns) (walking : v.session.Walking)
    (holds : v.session.forest.Holds base (Node.cellsAll base ns)) :
    ∃ (xs : List Sight) (os : List Outline) (v' : Served (σ × List Exchange)),
      Outline.siblings icons below (placesFrom base ns) v = (v', .ok os) ∧
      xs.map (Sight.drawn g icons) = os.map .ok ∧
      xs.map Sight.payload = ws ∧
      xs.map Sight.unfolding = is.map (g.unfold depth) ∧ (∀ x ∈ xs, x.Fed g depth) ∧
      Passed v v' base (Node.sizeAll ns) (xs.flatMap Sight.exchanges) := by
  induction reports generalizing ns base v with
  | nil =>
    cases reads
    refine ⟨[], [], v, rfl, rfl, rfl, rfl, by simp, ⟨walking, Nat.le_refl _, fun _ _ _ => rfl, ?_⟩⟩
    simp
  | @cons i w is ws told _ ih =>
    cases reads with
    | @cons _ n _ ns read rest =>
      have own : v.session.forest.Holds base (n.cells base) := holds.front
      obtain ⟨label, titled⟩ := g.titled renders icons i w
      obtain ⟨_, pictures, _⟩ := Graph.reportsLevel told read
      have labelled : Outline.labelOf icons v.session.forest base = .ok label :=
        (ownLabel icons pictures own).trans titled
      obtain ⟨reply, more, os, done, drawn, unfolds, fed, passed⟩ := lays told read walking own
      rcases first : below base v with ⟨u, r⟩
      simp only [first] at done passed
      obtain ⟨xs, later, v', rests, drawn', payloads, unfolds', fed', passed'⟩ :=
        ih rest passed.walking (passed.rest holds)
      refine ⟨.mk i w reply more :: xs, .branch label os :: later, v', ?_, ?_, ?_, ?_, ?_, ?_⟩
      · simp [placesFrom, Outline.siblings, labelled, first, done, rests]
      · simp [drawn', (Sight.drawnPlace i w reply more).mpr ⟨label, os, titled, drawn, rfl⟩]
      · simp [payloads, Sight.payload]
      · simp [unfolds, unfolds']
      · simpa using ⟨fed, fed'⟩
      · have both := passed.append passed'
        simpa [Node.sizeAll] using both

section Grow

variable {serve : Serving σ} {p : DocumentPosition} {root : NodeId}

theorem heardCallers (pictures : g.Pictures i w n) {s : σ × List Exchange} {r : Reply}
    (answered : (serve (callersParams (some i)) s.1).1 = r) (base : Nat) :
    heard serve (callersParams (n.cell base).symbol.id) s =
      (r, (serve (callersParams (some i)) s.1).2, s.2 ++ [(callersParams (some i), r)]) := by
  have asked : (n.cell base).symbol.id = some i := pictures.id
  rw [asked, heard, answered]

theorem leafSeen (pictures : g.Pictures i w n) (leaf : g.callers i = []) (bare : w.carried = [])
    (walking : v.session.Walking) (own : v.session.forest[h]? = some (n.cell (h + 1))) :
    Unfolded g icons (depth + 1) i w v h n.size
      (Outline.grow (heard serve) icons (depth + 1) h v) := by
  have closed : (n.cell (h + 1)).isExpandable = false := by
    simp [Cell.isExpandable, Node.cell, pictures.count, leaf]
  have same : Outline.grow (heard serve) icons (depth + 1) h v = (v, .ok []) := by
    simp [Outline.grow, own, closed]
  rw [same]
  refine ⟨none, [], [], rfl, rfl, ?_, ?_, ⟨walking, Nat.le_refl _, fun _ _ _ => rfl, ?_⟩⟩
  · simp [Sight.unfoldingPlace, Graph.unfold, leaf]
  · simp [Sight.Fed, leaf, bare]
  · simp [Sight.exchangesPlace]

theorem openedSeen (reply : Option Json) {ns : List Node} {u : Served (σ × List Exchange)}
    (renders : g.Renderable)
    (lays : Lays g icons depth levels (Outline.grow (heard serve) icons depth))
    (pictures : g.Pictures i w n) (called : g.callers i ≠ [])
    (own : v.session.forest[h]? = some (n.cell (h + 1)))
    (lists : v.children (heard serve) (some h) = (u, .ok (placesFrom base ns)))
    (asked : reply.isSome = true ↔ w.carried = [])
    (reports : List.Forall₂ (g.Reports levels) (g.callers i) (reply.getD w).carried)
    (reads : List.Forall₂ (Node.Reads .call levels) (reply.getD w).carried ns)
    (walking : u.session.Walking) (holds : u.session.forest.Holds base (Node.cellsAll base ns))
    (frame : ∀ {v' log}, Passed u v' base (Node.sizeAll ns) log → Passed v v' h n.size
      ((reply.map fun w => (callersParams (some i), (.ok w : Reply))).toList ++ log)) :
    Unfolded g icons (depth + 1) i w v h n.size
      (Outline.grow (heard serve) icons (depth + 1) h v) := by
  have opens := cellOpens pictures called (h + 1)
  have grows : Outline.grow (heard serve) icons (depth + 1) h v =
      Outline.siblings icons (Outline.grow (heard serve) icons depth) (placesFrom base ns) u := by
    simp [Outline.grow, own, opens, lists]
  obtain ⟨xs, os, v', rests, drawn, payloads, unfolds, fed, passed⟩ :=
    siblingsSeen renders lays reports reads walking holds
  rw [grows, rests]
  refine ⟨reply, xs, os, rfl, drawn, ?_, ?_, ?_⟩
  · rw [Sight.unfoldingPlace, unfolds, Graph.unfold]
  · exact ⟨by simpa [called] using asked, payloads, fed⟩
  · rw [Sight.exchangesPlace]
    exact frame passed

theorem fetchedSeen (renders : g.Renderable) (backs : g.Backs Node.levelLimit serve p root)
    (lays : ∀ levels, Lays g icons depth levels (Outline.grow (heard serve) icons depth))
    (pictures : g.Pictures i w n) (called : g.callers i ≠ []) (bare : w.carried = [])
    (walking : v.session.Walking) (holds : v.session.forest.Holds h (n.cells h)) :
    Unfolded g icons (depth + 1) i w v h n.size
      (Outline.grow (heard serve) icons (depth + 1) h v) := by
  obtain ⟨top, active⟩ := walking.active
  have own := holds.own
  have there : h < v.session.forest.length := (List.getElem?_eq_some_iff.mp own).1
  obtain ⟨w', answered, reports, feeds⟩ := backs.callers i v.server.1
  obtain ⟨n', reads⟩ := Graph.reportsRead reports
  obtain ⟨below, _, all, each⟩ := Graph.reportsLevel reports reads
  have lists := Served.childrenFetched walking.toPrompt active own pictures.synthetic
    (cellShort pictures called bare (h + 1)) (heardCallers pictures answered (h + 1))
    (Node.readsWire reads)
  have children : v.session.newChildren h n' = n'.children := by
    simp [Session.newChildren, walking.kind, Session.adopted]
  have planted := Session.grownHolds (n := n') there
  rw [children] at planted
  refine openedSeen (some w') renders (lays below) pictures called own lists (by simp [bare])
    (all.resolve_left (feeds called)) each (walking.issued _) planted fun passed => ?_
  have size := n.sizeSelf
  refine passed.widen ?_ (fun x old out => ⟨?_, .inl old⟩) rfl
  · simp [Session.grownLength]
  · exact Session.grownElsewhere old (by omega)

theorem heldSeen (renders : g.Renderable)
    (lays : Lays g icons depth levels (Outline.grow (heard serve) icons depth))
    (pictures : g.Pictures i w n) (called : g.callers i ≠ [])
    (reports : List.Forall₂ (g.Reports levels) (g.callers i) w.carried)
    (reads : List.Forall₂ (Node.Reads .call levels) w.carried n.children)
    (walking : v.session.Walking) (holds : v.session.forest.Holds h (n.cells h)) :
    Unfolded g icons (depth + 1) i w v h n.size
      (Outline.grow (heard serve) icons (depth + 1) h v) := by
  obtain ⟨top, active⟩ := walking.active
  have own := holds.own
  have length := reports.length_eq
  have full := (cellFull pictures (h + 1)).mpr length.symm
  have filled : w.carried ≠ [] := by
    rintro bare
    exact called (List.length_eq_zero_iff.mp (by rw [length, bare, List.length_nil]))
  refine openedSeen none renders lays pictures called own
    (Served.childrenHeld active own pictures.synthetic full) (by simp [filled]) reports reads
    (walking.issued _) holds.below fun passed => ?_
  have size := n.sizeSelf
  exact passed.widen (Nat.le_refl _) (fun x old out => ⟨rfl, by omega⟩) (by simp)

theorem growSeen (icons : IconTheme) (depth : Nat) (renders : g.Renderable)
    (backs : g.Backs Node.levelLimit serve p root) (levels : Nat) :
    Lays g icons depth levels (Outline.grow (heard serve) icons depth) := by
  induction depth generalizing levels with
  | zero =>
    intro i w n h v _ _ walking _
    refine ⟨none, [], [], rfl, rfl, ?_, ⟨rfl, rfl⟩, ⟨walking, Nat.le_refl _, fun _ _ _ => rfl, ?_⟩⟩
    · simp [Sight.unfoldingPlace, Graph.unfold]
    · simp [Outline.grow, Sight.exchangesPlace]
  | succ depth ih =>
    intro i w n h v reports reads walking holds
    obtain ⟨below, pictures, all, each⟩ := Graph.reportsLevel reports reads
    by_cases leaf : g.callers i = []
    · have bare : w.carried = [] := by
        rcases all with bare | told
        · exact bare
        · simpa [leaf] using told
      exact leafSeen pictures leaf bare walking holds.own
    · rcases all with bare | told
      · exact fetchedSeen renders backs ih pictures leaf bare walking holds
      · exact heldSeen renders (ih below) pictures leaf told each walking holds

theorem refusedSeen (serve : Serving σ) (icons : IconTheme) (depth : Nat) {w' : Json}
    {e : Node.Malformed} (pictures : g.Pictures i w n) (called : g.callers i ≠ [])
    (bare : w.carried = []) (walking : v.session.Walking)
    (holds : v.session.forest.Holds h (n.cells h))
    (answered : (serve (callersParams (some i)) v.server.1).1 = .ok w')
    (refused : Node.ofWire .call w' = .error e) :
    (Outline.grow (heard serve) icons (depth + 1) h v).2 =
      .ok [Outline.failure (.malformed e)] := by
  obtain ⟨top, active⟩ := walking.active
  have lists := Served.childrenRefused walking.toPrompt active holds.own pictures.synthetic
    (cellShort pictures called bare (h + 1)) (heardCallers pictures answered (h + 1)) refused
  simp [Outline.grow, holds.own, cellOpens pictures called (h + 1), lists]

theorem rootShown (serve : Serving σ) (p : DocumentPosition) (server : σ) {s : Session}
    (prompt : s.Prompt)
    (answered : (serve (Kind.call.rootParams p) server).1 = .ok w)
    (reads : Node.Reads .call Node.levelLimit w n) :
    ∃ v : Served (σ × List Exchange),
      Served.openRoot (heard serve) p ⟨s, server, []⟩ = (v, .ok (some s.forest.length)) ∧
        v.session.Walking ∧ v.session.forest.Holds s.forest.length (n.cells s.forest.length) ∧
          v.server.2 = [(Kind.call.rootParams p, .ok w)] := by
  have told : heard serve (Kind.call.rootParams p) (server, []) =
      (.ok w, (serve (Kind.call.rootParams p) server).2, [(Kind.call.rootParams p, .ok w)]) := by
    simp [heard, answered]
  refine ⟨_, Served.rootOpened prompt told (Node.readsWire reads), ?_,
    Forest.plantHolds s.forest n, rfl⟩
  exact ⟨⟨prompt.kind, fun w mem => Nat.lt_succ_of_lt (prompt.young w mem)⟩, _, rfl⟩

end Grow

end Walk

/- However far the payloads of a server reach ahead, a root laid open shows the graph unfolded to
the depth that is asked for. On the way the server is asked for the callers of just those symbols
above the last level that have some and were stated without them, each before those below it. -/
theorem lazilyUnfolded {σ : Type} {g : Graph} {serve : Serving σ} {p : DocumentPosition}
    {root : NodeId} (renders : g.Renderable) (backs : g.Backs Node.levelLimit serve p root)
    (icons : IconTheme) (depth : Nat) (before : List Input) (server : σ) :
    ∃ (v : Served (σ × List Exchange)) (h : Handle) (x : Sight) (o : Outline),
      Served.openRoot (heard serve) p ⟨(Session.fresh .call).after before, server, []⟩ =
        (v, .ok (some h)) ∧
      v.server.2 = [(Kind.call.rootParams p, .ok x.payload)] ∧
      x.unfolding = g.unfold depth root ∧ x.Fed g depth ∧ x.drawn g icons = .ok o ∧
      (Outline.build (heard serve) icons depth h v).2 = .ok o ∧
      (Outline.build (heard serve) icons depth h v).1.server.2 = v.server.2 ++ x.exchanges := by
  have prompt : ((Session.fresh .call).after before).Prompt :=
    ⟨Session.afterKind _ before, Session.freshYoung .call before⟩
  obtain ⟨w, answered, reports⟩ := backs.root server
  obtain ⟨n, reads⟩ := Graph.reportsRead reports
  obtain ⟨_, pictures, _⟩ := Graph.reportsLevel reports reads
  obtain ⟨v, opened, walking, holds, told⟩ := rootShown serve p server prompt answered reads
  obtain ⟨label, titled⟩ := g.titled renders icons root w
  have labelled := (ownLabel icons pictures holds).trans titled
  obtain ⟨reply, below, os, done, drawn, unfolds, fed, passed⟩ :=
    growSeen icons depth renders backs _ reports reads walking holds
  rcases grown : Outline.grow (heard serve) icons depth
    ((Session.fresh .call).after before).forest.length v with ⟨v', r⟩
  simp only [grown] at done passed
  refine ⟨v, _, .mk root w reply below, .branch label os, opened, told, unfolds, fed,
    (Sight.drawnPlace root w reply below).mpr ⟨label, os, titled, drawn, rfl⟩, ?_, ?_⟩
  · simp [Outline.build, labelled, grown, done]
  · simp [Outline.build, labelled, grown, done, passed.told]

def tangled : Graph where
  name
    | .int n => if n = 1 then "main" else "f"
    | .text s => s
  location
    | .int _ => some { uri := "file:///s/a.cpp", range := ⟨⟨2, 0⟩, ⟨2, 3⟩⟩ }
    | .text _ => none
  callers
    | .int n => if n = 1 then [.int 2, .int 1] else [.int 1]
    | .text _ => []

theorem tangledLimited : tangled.Limited := by
  rintro (n | s) l place
  · cases place
    simp [Location.InRange, Position.InRange]
  · cases place

theorem tangledRenders : tangled.Renderable := by
  rintro (n | s) l place
  · cases place
    refine ⟨"a.cpp", ?_⟩
    decide +kernel
  · cases place

def tangledServer : Serving Unit := tangled.answering 1 2 (.int 1)

def outset : DocumentPosition := ⟨"file:///p.cpp", ⟨0, 0⟩⟩

theorem lazilyUnfoldedTangled :
    tangled.Renderable ∧ tangled.Backs Node.levelLimit tangledServer outset (.int 1) ∧
      ∃ (v : Served (Unit × List Exchange)) (h : Handle) (x : Sight) (o : Outline),
        Served.openRoot (heard tangledServer) outset
          ⟨(Session.fresh .call).after [.children none], (), []⟩ = (v, .ok (some h)) ∧
        x.unfolding = .node (.int 1)
          [.node (.int 2) [.node (.int 1) [.node (.int 2) [], .node (.int 1) []]],
            .node (.int 1) [.node (.int 2) [.node (.int 1) []],
              .node (.int 1) [.node (.int 2) [], .node (.int 1) []]]] ∧
        x.Fed tangled 3 ∧ x.drawn tangled {} = .ok o ∧
        (Outline.build (heard tangledServer) {} 3 h v).2 = .ok o := by
  have backs : tangled.Backs Node.levelLimit tangledServer outset (.int 1) :=
    Graph.answeringBacks tangledLimited (by decide) (by decide) (by decide) outset (.int 1)
  obtain ⟨v, h, x, o, opened, _, unfolds, fed, drawn, built, _⟩ :=
    lazilyUnfolded tangledRenders backs {} 3 [.children none] ()
  exact ⟨tangledRenders, backs, v, h, x, o, opened, unfolds, fed, drawn, built⟩

def looped : Graph where
  name _ := "f"
  location _ := none
  callers
    | .int n => [.int n]
    | .text _ => [.int 1, .int 2]

theorem loopedLimited : looped.Limited := by simp [Graph.Limited, looped]

theorem loopedRenders : looped.Renderable := by simp [Graph.Renderable, looped]

theorem loopedRefused : ∃ e, Node.ofWire .call (looped.payload 255 (.text "main")) = .error e := by
  have endless : ∀ i, looped.callers i ≠ [] := by rintro (n | s) <;> simp [looped]
  cases read : Node.ofWire .call (looped.payload 255 (.text "main")) with
  | error e => exact ⟨e, rfl⟩
  | ok n =>
    have reads : Node.Reads .call 255 (looped.payload 255 (.text "main")) n := Node.wireReads read
    exact absurd reads (Graph.payloadUnread loopedLimited endless (Nat.le_refl 255) _ n)

def deepServer : Serving Unit := looped.answering 0 255 (.text "main")

theorem loopedDrawn :
    ∃ (v : Served (Unit × List Exchange)) (h : Handle) (label : String) (f : Fault),
      Served.openRoot (heard deepServer) outset ⟨Session.fresh .call, (), []⟩ = (v, .ok (some h)) ∧
      (Outline.build (heard deepServer) {} 1 h v).2 = .ok (.branch label [Outline.failure f]) := by
  have reports : looped.Reports Node.levelLimit (.text "main") (looped.payload 0 (.text "main")) :=
    Graph.payloadReports loopedLimited (by decide) _
  obtain ⟨n, reads⟩ := Graph.reportsRead reports
  obtain ⟨_, pictures, _⟩ := Graph.reportsLevel reports reads
  have prompt : (Session.fresh .call).Prompt := ⟨rfl, by simp [Session.fresh]⟩
  obtain ⟨v, opened, walking, holds, _⟩ :=
    rootShown deepServer outset () prompt rfl reads
  obtain ⟨label, titled⟩ := Graph.titled loopedRenders {} (.text "main")
    (looped.payload 0 (.text "main"))
  have labelled := (ownLabel {} pictures holds).trans titled
  obtain ⟨e, refused⟩ := loopedRefused
  have below := refusedSeen deepServer {} 0 pictures
    (by simp [looped]) rfl walking holds rfl refused
  rcases grown : Outline.grow (heard deepServer) {} 1 (Session.fresh .call).forest.length v
    with ⟨v', r⟩
  simp only [grown] at below
  refine ⟨v, _, label, .malformed e, opened, ?_⟩
  simp [Outline.build, labelled, grown, below]

/- A reply may carry more levels than are read: the callers it brings are not seen. -/
theorem deepCallersUnseen :
    ¬ ∀ (g : Graph) (levels : Nat) (serve : Serving Unit) (p : DocumentPosition) (root : NodeId),
      g.Renderable → g.Backs levels serve p root → ∀ (icons : IconTheme) (depth : Nat),
        ∃ (v : Served (Unit × List Exchange)) (h : Handle) (x : Sight) (o : Outline),
          Served.openRoot (heard serve) p ⟨Session.fresh .call, (), []⟩ = (v, .ok (some h)) ∧
            x.unfolding = g.unfold depth root ∧ x.drawn g icons = .ok o ∧
            (Outline.build (heard serve) icons depth h v).2 = .ok o := by
  intro claimed
  obtain ⟨v, h, x, o, opened, unfolds, drawn, built⟩ := claimed looped 256 deepServer outset
    (.text "main") loopedRenders
    (Graph.answeringBacks loopedLimited (by decide) (by decide) (by decide) outset _) {} 1
  obtain ⟨v', h', label, f, opened', built'⟩ := loopedDrawn
  cases opened.symm.trans opened'
  obtain ⟨i, w, reply, below⟩ := x
  obtain ⟨label', os, _, each, rfl⟩ := (Sight.drawnPlace i w reply below).mp drawn
  have same := built.symm.trans built'
  simp only [Except.ok.injEq, Outline.branch.injEq] at same
  rw [Sight.unfoldingPlace] at unfolds
  have two : below.length = 2 := by
    have count := congrArg List.length (Unfolding.node.inj unfolds).2
    simpa [looped] using count
  have one := congrArg List.length each
  simp [same.2, two] at one

end SymbolHierarchy
