import Mathlib.Data.List.Forall2
import SymbolHierarchy.Cli.Run

/-! Replies however they are written. An object may come as a record and a list as a tuple, at any
depth; two replies have one plain form just when they differ in nothing else. So nothing behind a
connection sees how its client writes its replies: nodes and statistics are read alike, and a whole
request ends alike. -/
namespace SymbolHierarchy
namespace Server
namespace Value

inductive Lists : Value → List Value → Prop
  | list (items : List Value) : Lists (.list items) items
  | tuple (items : List Value) : Lists (.tuple items) items

inductive Names : Value → List (String × Value) → Prop
  | object (members : List (String × Value)) : Names (.object members) members
  | record (members : List (String × Value)) : Names (.record members) members

/- Values that differ only in how their lists and objects are written, at any depth. -/
inductive Alike : Value → Value → Prop
  | scalar (s : Scalar) : Alike (.scalar s) (.scalar s)
  | listed {v w : Value} {xs ys : List Value} (left : Lists v xs) (right : Lists w ys)
      (each : List.Forall₂ Alike xs ys) : Alike v w
  | named {v w : Value} {xs ys : List (String × Value)} (left : Names v xs) (right : Names w ys)
      (names : xs.map Prod.fst = ys.map Prod.fst)
      (each : List.Forall₂ Alike (xs.map Prod.snd) (ys.map Prod.snd)) : Alike v w

inductive Bare : Value → Prop
  | scalar (s : Scalar) : Bare (.scalar s)
  | list {items : List Value} (each : ∀ v ∈ items, Bare v) : Bare (.list items)
  | object {members : List (String × Value)} (each : ∀ v ∈ members.map Prod.snd, Bare v) :
      Bare (.object members)

theorem induct {P : Value → Prop} (scalar : ∀ s, P (.scalar s))
    (listed : ∀ v items, Lists v items → (∀ x ∈ items, P x) → P v)
    (named : ∀ v members, Names v members → (∀ x ∈ members.map Prod.snd, P x) → P v)
    (v : Value) : P v := by
  refine @Value.rec P (fun items => ∀ v ∈ items, P v)
    (fun members => ∀ v ∈ members.map Prod.snd, P v) (fun m => P m.2) scalar
    (fun items => listed _ _ (.list items)) (fun items => listed _ _ (.tuple items))
    (fun members => named _ _ (.object members)) (fun members => named _ _ (.record members))
    ?noItem ?item ?noMember ?member ?pair v
  case noItem => simp
  case item => exact fun v rest own others => List.forall_mem_cons.mpr ⟨own, others⟩
  case noMember => simp
  case member => exact fun m rest own others => List.forall_mem_cons.mpr ⟨own, others⟩
  case pair => exact fun _ _ own => own

theorem itemsPlain (items : List Value) : plainItems items = items.map plain := by
  induction items with
  | nil => rfl
  | cons v rest ih => rw [plainItems, ih, List.map_cons]

theorem membersPlain (members : List (String × Value)) :
    plainMembers members = members.map fun m => (m.1, m.2.plain) := by
  induction members with
  | nil => rfl
  | cons m rest ih =>
    obtain ⟨k, v⟩ := m
    rw [plainMembers, ih, List.map_cons]

theorem ofItemsMap (items : List Json) : ofItems items = items.map ofJson := by
  induction items with
  | nil => rfl
  | cons v rest ih => rw [ofItems, ih, List.map_cons]

theorem ofMembersMap (members : List (String × Json)) :
    ofMembers members = members.map fun m => (m.1, ofJson m.2) := by
  induction members with
  | nil => rfl
  | cons m rest ih =>
    obtain ⟨k, v⟩ := m
    rw [ofMembers, ih, List.map_cons]

variable {v w : Value} {items : List Value} {members : List (String × Value)}

theorem listsPlain (lists : Lists v items) : v.plain = .list (items.map plain) := by
  cases lists <;> rw [plain, itemsPlain]

theorem namesPlain (names : Names v members) :
    v.plain = .object (members.map fun m => (m.1, m.2.plain)) := by
  cases names <;> rw [plain, membersPlain]

theorem shapes (v : Value) :
    (∃ s, v = .scalar s) ∨ (∃ items, Lists v items) ∨ ∃ members, Names v members := by
  cases v with
  | scalar s => exact .inl ⟨s, rfl⟩
  | list items => exact .inr (.inl ⟨items, .list items⟩)
  | tuple items => exact .inr (.inl ⟨items, .tuple items⟩)
  | object members => exact .inr (.inr ⟨members, .object members⟩)
  | record members => exact .inr (.inr ⟨members, .record members⟩)

theorem plainScalar {s : Scalar} (written : v.plain = .scalar s) : v = .scalar s := by
  rcases v.shapes with ⟨t, rfl⟩ | ⟨items, lists⟩ | ⟨members, names⟩
  · cases written
    rfl
  · rw [listsPlain lists] at written
    cases written
  · rw [namesPlain names] at written
    cases written

theorem plainList {js : List Json} (written : v.plain = .list js) :
    ∃ items, Lists v items ∧ items.map plain = js := by
  rcases v.shapes with ⟨t, rfl⟩ | ⟨items, lists⟩ | ⟨members, names⟩
  · cases written
  · rw [listsPlain lists] at written
    exact ⟨items, lists, Json.list.inj written⟩
  · rw [namesPlain names] at written
    cases written

theorem plainObject {js : List (String × Json)} (written : v.plain = .object js) :
    ∃ members, Names v members ∧ (members.map fun m => (m.1, m.2.plain)) = js := by
  rcases v.shapes with ⟨t, rfl⟩ | ⟨items, lists⟩ | ⟨members, names⟩
  · cases written
  · rw [listsPlain lists] at written
    cases written
  · rw [namesPlain names] at written
    exact ⟨members, names, Json.object.inj written⟩

theorem eachAlike {xs ys : List Value} (own : ∀ x ∈ xs, ∀ y, x.plain = y.plain → x.Alike y)
    (same : xs.map plain = ys.map plain) : List.Forall₂ Alike xs ys := by
  induction xs generalizing ys with
  | nil =>
    cases List.map_eq_nil_iff.mp same.symm
    exact .nil
  | cons x xs ih =>
    cases ys with
    | nil => cases same
    | cons y ys =>
      obtain ⟨first, rest⟩ := List.cons_eq_cons.mp same
      obtain ⟨here, others⟩ := List.forall_mem_cons.mp own
      exact .cons (here y first) (ih others rest)

theorem eachPlain {xs ys : List Value} (own : ∀ x ∈ xs, ∀ y, x.Alike y → x.plain = y.plain)
    (alike : List.Forall₂ Alike xs ys) : xs.map plain = ys.map plain := by
  induction alike with
  | nil => rfl
  | cons first rest ih =>
    obtain ⟨here, others⟩ := List.forall_mem_cons.mp own
    rw [List.map_cons, List.map_cons, here _ first, ih others]

theorem membersSame {xs ys : List (String × Value)} :
    (xs.map fun m => (m.1, m.2.plain)) = (ys.map fun m => (m.1, m.2.plain)) ↔
      xs.map Prod.fst = ys.map Prod.fst ∧
        (xs.map Prod.snd).map plain = (ys.map Prod.snd).map plain := by
  induction xs generalizing ys with
  | nil => cases ys <;> simp
  | cons x xs ih =>
    cases ys with
    | nil => simp
    | cons y ys =>
      simp only [List.map_cons, List.cons.injEq, ih, Prod.mk.injEq]
      tauto

theorem plainAlike (same : v.plain = w.plain) : v.Alike w := by
  induction v using induct generalizing w with
  | scalar s =>
    cases plainScalar same.symm
    exact .scalar s
  | listed v items lists own =>
    rw [listsPlain lists] at same
    obtain ⟨others, right, equal⟩ := plainList same.symm
    exact .listed lists right (eachAlike (fun x mem y => own x mem) equal.symm)
  | named v members names own =>
    rw [namesPlain names] at same
    obtain ⟨others, right, equal⟩ := plainObject same.symm
    obtain ⟨called, valued⟩ := membersSame.mp equal.symm
    exact .named names right called (eachAlike (fun x mem y => own x mem) valued)

theorem listsOnce {others : List Value} (lists : Lists v items) (again : Lists v others) :
    items = others := by
  cases lists <;> cases again <;> rfl

theorem namesOnce {others : List (String × Value)} (names : Names v members)
    (again : Names v others) : members = others := by
  cases names <;> cases again <;> rfl

theorem listsUnnamed (lists : Lists v items) : ¬ Names v members := by
  rintro (_ | _) <;> cases lists

theorem alikePlain (alike : v.Alike w) : v.plain = w.plain := by
  induction v using induct generalizing w with
  | scalar s =>
    cases alike with
    | scalar => rfl
    | listed left => cases left
    | named left => cases left
  | listed v items lists own =>
    cases alike with
    | scalar => rfl
    | listed left right each =>
      cases listsOnce lists left
      rw [listsPlain left, listsPlain right, eachPlain (fun x mem y => own x mem) each]
    | named left => exact absurd left (listsUnnamed lists)
  | named v members names own =>
    cases alike with
    | scalar => rfl
    | listed left => exact absurd names (listsUnnamed left)
    | named left right called each =>
      cases namesOnce names left
      have valued := eachPlain (fun x mem y => own x mem) each
      rw [namesPlain left, namesPlain right, membersSame.mpr ⟨called, valued⟩]

theorem ofJsonPlain (j : Json) : (ofJson j).plain = j := by
  induction j using Json.induct with
  | scalar s => rfl
  | list items own =>
    rw [ofJson, ofItemsMap, listsPlain (.list _), List.map_map]
    exact congrArg Json.list (List.map_congr_left own |>.trans (List.map_id _))
  | object members own =>
    rw [ofJson, ofMembersMap, namesPlain (.object _), List.map_map]
    refine congrArg Json.object ((List.map_congr_left fun m mem => ?_).trans (List.map_id _))
    exact Prod.ext rfl (own m.2 (List.mem_map_of_mem mem))

theorem ofJsonBare (j : Json) : (ofJson j).Bare := by
  induction j using Json.induct with
  | scalar s => exact .scalar s
  | list items own =>
    rw [ofJson, ofItemsMap]
    exact .list (List.forall_mem_map.mpr own)
  | object members own =>
    rw [ofJson, ofMembersMap]
    refine .object ?_
    rw [List.map_map]
    intro x mem
    obtain ⟨m, there, rfl⟩ := List.mem_map.mp mem
    exact own m.2 (List.mem_map_of_mem there)

theorem bareKept (bare : v.Bare) : ofJson v.plain = v := by
  induction v using induct with
  | scalar s => rfl
  | listed v items lists own =>
    cases bare with
    | scalar => cases lists
    | object => cases lists
    | list each =>
      cases lists
      rw [listsPlain (.list _), ofJson, ofItemsMap, List.map_map]
      exact congrArg list
        ((List.map_congr_left fun x mem => own x mem (each x mem)).trans (List.map_id _))
  | named v members names own =>
    cases bare with
    | scalar => cases names
    | list => cases names
    | object each =>
      cases names
      rw [namesPlain (.object _), ofJson, ofMembersMap, List.map_map]
      refine congrArg object ((List.map_congr_left fun m mem => ?_).trans (List.map_id _))
      have there : m.2 ∈ members.map Prod.snd := List.mem_map_of_mem mem
      exact Prod.ext rfl (own m.2 there (each m.2 there))

def normal (v : Value) : Value := ofJson v.plain

theorem normalPlain (v : Value) : v.normal.plain = v.plain := ofJsonPlain v.plain

theorem normalSame : v.normal = w.normal ↔ v.Alike w := by
  constructor
  · intro same
    have plain := congrArg Value.plain same
    rw [normalPlain, normalPlain] at plain
    exact plainAlike plain
  · intro alike
    rw [normal, normal, alikePlain alike]

theorem normalKept : v.normal = v ↔ v.Bare := by
  refine ⟨fun kept => ?_, bareKept⟩
  rw [← kept]
  exact ofJsonBare v.plain

/- What the plain form of a value leaves of it, and what it is the same for. -/
structure Settled (v : Value) : Prop where
  bare : v.normal.Bare
  kept : v.normal = v ↔ v.Bare
  again : v.normal.normal = v.normal
  alike : ∀ w, v.normal = w.normal ↔ v.Alike w

theorem settled (v : Value) : v.Settled where
  bare := ofJsonBare v.plain
  kept := normalKept
  again := normalKept.mpr (ofJsonBare v.plain)
  alike _ := normalSame

end Value

section Clients

variable {σ : Type} {client other : Client σ}

inductive Retold : Except Raised Value × σ → Except Raised Value × σ → Prop
  | failed (r : Raised) (s : σ) : Retold (.error r, s) (.error r, s)
  | replied {v w : Value} (alike : v.Alike w) (s : σ) : Retold (.ok v, s) (.ok w, s)

def Likewise (client other : Client σ) : Prop :=
  ∀ n call s, Retold (client n call s) (other n call s)

theorem Likewise.told (likewise : Likewise client other) (n : Nat) (call : Call) (s : σ) :
    (∃ r t, client n call s = (.error r, t) ∧ other n call s = (.error r, t)) ∨
      ∃ v w t, client n call s = (.ok v, t) ∧ other n call s = (.ok w, t) ∧ v.Alike w := by
  have told := likewise n call s
  generalize client n call s = x, other n call s = y at told
  cases told with
  | failed r t => exact .inl ⟨r, t, rfl, rfl⟩
  | replied alike t => exact .inr ⟨_, _, t, rfl, rfl, alike⟩

theorem Likewise.next (likewise : Likewise client other) (n : Nat) (call : Call) (s : σ) :
    (client n call s).2 = (other n call s).2 := by
  rcases likewise.told n call s with ⟨r, t, one, two⟩ | ⟨v, w, t, one, two, _⟩ <;> rw [one, two]

namespace Connection

theorem requestLikewise (likewise : Likewise client other) : request client = request other := by
  funext c method params s
  cases held : c.held with
  | none => simp only [request, held]
  | some n =>
    rcases likewise.told n (.request method params) s with
      ⟨r, t, one, two⟩ | ⟨v, w, t, one, two, alike⟩
    · simp only [request, held, one, two]
    · simp only [request, held, one, two, Value.alikePlain alike]

theorem queryLikewise (likewise : Likewise client other) : query client = query other := by
  funext p c k params s
  rw [query, query, requestLikewise likewise]

theorem statisticsLikewise (likewise : Likewise client other) :
    statistics client = statistics other := by
  funext p c s
  rw [statistics, statistics, requestLikewise likewise]

theorem reloadLikewise (likewise : Likewise client other) : reload client = reload other := by
  funext p c s
  cases held : c.held with
  | none => simp only [reload, held]
  | some n =>
    rcases likewise.told n (.notify p.settings.methods.reload) s with
      ⟨r, t, one, two⟩ | ⟨v, w, t, one, two, _⟩ <;> simp only [reload, held, one, two]

theorem handshakeLikewise (likewise : Likewise client other) (p : Plan) (n : Nat) (s : σ) :
    Retold (handshake client p n s) (handshake other p n s) := by
  rcases likewise.told n p.launch s with ⟨r, t, one, two⟩ | ⟨v, w, t, one, two, _⟩
  · simp only [handshake, one, two]
    exact .failed r t
  · simp only [handshake, one, two]
    cases p.introduction with
    | error r => exact .failed r t
    | ok i => exact likewise n (.introduce i) t

theorem startLikewise (likewise : Likewise client other) : start client = start other := by
  funext p c s
  cases held : c.held with
  | some n => simp only [start, held]
  | none =>
    rcases likewise.told c.created (.create "symtree" "0.1.0") s with
      ⟨r, t, one, two⟩ | ⟨v, w, t, one, two, _⟩
    · simp only [start, held, one, two]
    · have shaken := handshakeLikewise likewise p c.created t
      simp only [start, held, one, two]
      generalize handshake client p c.created t = x, handshake other p c.created t = y at shaken
      cases shaken with
      | failed r u => simp only [likewise.next]
      | replied _ u =>
        rcases likewise.told c.created .introduced u with
          ⟨r, t, one, two⟩ | ⟨v, w, t, one, two, _⟩ <;> simp only [one, two]

theorem farewellLikewise (likewise : Likewise client other) (n : Nat) (s : σ) :
    farewell client n s = farewell other n s := by
  rcases likewise.told n .shutdown s with ⟨r, t, one, two⟩ | ⟨v, w, t, one, two, _⟩
  · simp only [farewell, one, two]
  · simp only [farewell, one, two, likewise.next]

theorem stopLikewise (likewise : Likewise client other) : stop client = stop other := by
  funext c s
  cases held : c.held with
  | none => simp only [stop, held]
  | some n =>
    rcases likewise.told n .stop (farewell other n s) with
      ⟨r, t, one, two⟩ | ⟨v, w, t, one, two, _⟩ <;>
        simp only [stop, held, farewellLikewise likewise, one, two]

theorem openDocumentLikewise (likewise : Likewise client other) :
    openDocument client = openDocument other := by
  funext p c path s
  cases held : c.held with
  | none => simp only [openDocument, held]
  | some n =>
    simp only [openDocument, held]
    split
    · rfl
    · rfl
    · rename_i resolved bytes _ _
      have told := likewise.told n (.didOpen [("languageId", .text (languageOf path)),
        ("text", .text (String.ofList (Text.unifyLines (Text.decodeUtf8 bytes)))),
        ("uri", .text (p.paths.toServer resolved.uri)), ("version", .int 1)]) s
      rcases told with ⟨r, t, one, two⟩ | ⟨v, w, t, one, two, _⟩ <;> simp only [one, two]

end Connection
end Clients
end Server

namespace Cli
open Server (Client Likewise)

variable {σ : Type} {client other : Client σ}

theorem attendedLikewise {α : Type} (likewise : Likewise client other) (p : Server.Plan)
    (work : Work σ α) : attended client p work = attended other p work := by
  funext s
  simp only [attended, Server.Connection.startLikewise likewise,
    Server.Connection.stopLikewise likewise]

theorem exploredLikewise (likewise : Likewise client other) :
    explored client = explored other := by
  funext p kind file x c connection s
  simp only [explored, layOpen, Server.Connection.openDocumentLikewise likewise,
    Server.Connection.queryLikewise likewise]

theorem printedLikewise {α : Type} (likewise : Likewise client other) (f : Files)
    (e : Surroundings) (site : Site) (work : Server.Plan → Work σ α) (print : α → Ending) :
    printed client f e site work print = printed other f e site work print := by
  funext s
  simp only [printed, attendedLikewise likewise]

theorem requestRunLikewise (likewise : Likewise client other) :
    Request.run client = Request.run other := by
  funext f e x s
  cases x with
  | help scope => rfl
  | version => rfl
  | explore kind place choices =>
    simp only [Request.run, runExploration, exploredLikewise likewise, attendedLikewise likewise]
  | statistics site =>
    simp only [Request.run, Server.Connection.statisticsLikewise likewise,
      printedLikewise likewise]
  | reload site =>
    simp only [Request.run, Server.Connection.reloadLikewise likewise, printedLikewise likewise]

end Cli

namespace Server

variable {σ : Type} {client other : Client σ}

/- No reader behind a connection tells one client from the other. -/
structure Unseen (client other : Client σ) : Prop where
  nodes : ∀ (view : Session) (p : Plan) (c : Connection) k params s,
    view.decode (c.query client p k params s).1 = view.decode (c.query other p k params s).1
  statistics : ∀ (p : Plan) (c : Connection) s, c.statistics client p s = c.statistics other p s
  requests : ∀ f e (x : Cli.Request) s, x.run client f e s = x.run other f e s

theorem likewiseUnseen (likewise : Likewise client other) : Unseen client other where
  nodes view p c k params s := by rw [Connection.queryLikewise likewise]
  statistics p c s := by rw [Connection.statisticsLikewise likewise]
  requests f e x s := by rw [Cli.requestRunLikewise likewise]

/- A plain form has no tuple and no record, leaves a value alone just when it has none, and is the
same for two values just when they differ in how they are written alone; and of two clients that
differ so no more, every query, report and request comes out the same. -/
theorem writingUnseen : (∀ v : Value, v.Settled) ∧
    ∀ {σ : Type} (client other : Client σ), Likewise client other → Unseen client other :=
  ⟨Value.settled, fun _ _ => likewiseUnseen⟩

def plainly (client : Client σ) : Client σ := fun n call s =>
  ((client n call s).1.map Value.normal, (client n call s).2)

theorem plainlyLikewise (client : Client σ) : Likewise client (plainly client) := by
  intro n call s
  rcases answer : client n call s with ⟨r | v, t⟩
  · simp only [plainly, answer, Except.map]
    exact .failed r t
  · simp only [plainly, answer, Except.map]
    exact .replied (Value.normalSame.mp (Value.settled v).again.symm) t

def dressed : Value :=
  .record [("id", .scalar (.int 1)), ("name", .scalar (.text "f")),
    ("numChildren", .scalar (.int 1)), ("children", .tuple [.record [("id", .scalar (.int 2)),
      ("name", .scalar (.text "g")), ("numChildren", .scalar (.int 0))]])]

theorem writingUnseenDressed :
    dressed.Settled ∧ Unseen Script.client (plainly Script.client) ∧ dressed.normal ≠ dressed ∧
      (Node.ofWire .call dressed.plain).isOk = true :=
  ⟨writingUnseen.1 dressed, writingUnseen.2 _ _ (plainlyLikewise Script.client), nofun, rfl⟩

end Server
end SymbolHierarchy
