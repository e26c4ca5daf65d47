import SymbolHierarchy.Proofs.Cli.Closing

/-! The figures that a server reports. A reply comes to them, or is refused with a complaint for
each figure that is no number; but a section that holds something other than members is not told
as a fault of the reply. The command that prints the figures ends in a panel or in one line, unless
such a section or the server's own start and stop let a failure out. -/
namespace SymbolHierarchy
namespace Server
open Schema (Checked Detail Violation)

inductive Figure
  | files
  | functions
  | types
  | values
  | entries
  | pending
  deriving DecidableEq, Repr

namespace Figure

def all : List Figure := [.files, .functions, .types, .values, .entries, .pending]

def part : Figure → String
  | .files | .functions | .types | .values => "db"
  | .entries => "project"
  | .pending => "pipeline"

def name : Figure → String
  | .files => "files"
  | .functions => "funcs"
  | .types => "types"
  | .values => "vars"
  | .entries => "entries"
  | .pending => "pendingIndexRequests"

def told : Figure → String
  | .pending => "pending_index_requests"
  | f => f.name

def of (x : Statistics) : Figure → Int
  | .files => x.files
  | .functions => x.functions
  | .types => x.types
  | .values => x.values
  | .entries => x.entries
  | .pending => x.pending

def given (v : Json) (f : Figure) : Option Json :=
  ((v.get? f.part).bind (Json.get? f.name)).filter fun w => f ≠ .pending || !w.isEmpty

inductive States (v : Json) (f : Figure) : Int → Prop
  | absent (none : f.given v = none) : States v f 0
  | read {w : Json} {n : Int} (some : f.given v = some w) (read : Schema.int w.scalar? = .ok n) :
      States v f n

inductive Misstates (v : Json) (f : Figure) : Violation → Prop
  | read {w : Json} {e : Violation} (some : f.given v = some w)
      (read : Schema.int w.scalar? = .error e) : Misstates v f e

def complaint (f : Figure) (e : Violation) : Detail := ⟨[.field f.told], e⟩

def check (v : Json) (f : Figure) : Checked Int :=
  match f.given v with
  | none => .ok 0
  | some w => (Node.scalarField Schema.int w).under (.field f.told)

section Checks

variable {v : Json} {f : Figure} {n : Int} {ds : List Detail} {members : List (String × Json)}

theorem readEither (f : Figure) (w : Json) :
    (Node.scalarField Schema.int w).under (.field f.told) =
      match Schema.int w.scalar? with
      | .ok n => .ok n
      | .error e => .error [f.complaint e] := by
  unfold Node.scalarField
  cases Schema.int w.scalar? <;> rfl

theorem statesExactly : f.check v = .ok n ↔ f.States v n := by
  unfold check
  constructor
  · intro checked
    split at checked
    · rename_i none
      cases checked
      exact .absent none
    · rename_i w some
      rw [readEither] at checked
      split at checked
      · rename_i read
        cases checked
        exact .read some read
      · cases checked
  · rintro (none | ⟨some, read⟩)
    · rw [none]
    · simp only [some, readEither, read]

theorem misstatesExactly :
    f.check v = .error ds ↔ ∃ e, f.Misstates v e ∧ ds = [f.complaint e] := by
  unfold check
  constructor
  · intro checked
    split at checked
    · cases checked
    · rename_i w some
      rw [readEither] at checked
      split at checked
      · cases checked
      · rename_i e read
        cases checked
        exact ⟨e, .read some read, rfl⟩
  · rintro ⟨e, ⟨some, read⟩, rfl⟩
    simp only [some, readEither, read]

theorem countChecked (other : f ≠ .pending)
    (same : ∀ key, Json.member key members = (v.get? f.part).bind (Json.get? key)) :
    Statistics.countOf members f.name f.told = f.check v := by
  rw [check, given, ← same, Statistics.countOf]
  cases Json.member f.name members with
  | none => rfl
  | some w => simp [Option.filter, other]

theorem pendingChecked
    (same : ∀ key, Json.member key members = (v.get? pending.part).bind (Json.get? key)) :
    Statistics.pendingOf members = pending.check v := by
  rw [check, given, ← same, Statistics.pendingOf, name]
  cases Json.member "pendingIndexRequests" members with
  | none => rfl
  | some w => cases empty : w.isEmpty <;> simp [Option.filter, empty, told]

end Checks
end Figure

/- A section that holds something, and no members. -/
def Stray (name : String) (v : Json) : Prop :=
  ∃ w, v.get? name = some w ∧ w.isEmpty = false ∧ ∀ members, w ≠ .object members

section Reply

variable {v : Json} {name : String} {members : List (String × Json)} {out : Except Fault Statistics}

theorem strayRaised (stray : Stray name v) :
    Statistics.sectionOf name v = .error (.raised .noSuchMember) := by
  obtain ⟨w, found, full, other⟩ := stray
  simp only [Statistics.sectionOf, found, full]
  cases w with
  | scalar s => rfl
  | list items => rfl
  | object members => exact absurd rfl (other members)

theorem orderlyMembers (orderly : ¬ Stray name v) :
    ∃ members, Statistics.sectionOf name v = .ok members ∧
      ∀ key, Json.member key members = (v.get? name).bind (Json.get? key) := by
  unfold Statistics.sectionOf
  cases found : v.get? name with
  | none => exact ⟨[], rfl, fun _ => rfl⟩
  | some w =>
    cases empty : w.isEmpty with
    | true =>
      refine ⟨[], by simp [empty], fun key => ?_⟩
      cases w with
      | scalar s => rfl
      | list items => rfl
      | object members =>
        cases List.isEmpty_iff.mp empty
        rfl
    | false =>
      cases w with
      | object members => exact ⟨members, by simp [empty], fun _ => rfl⟩
      | scalar s => exact absurd ⟨_, found, empty, nofun⟩ orderly
      | list items => exact absurd ⟨_, found, empty, nofun⟩ orderly

def Orderly (v : Json) : Prop := ∀ f : Figure, ¬ Stray f.part v

def complaints (v : Json) : List Detail := Figure.all.flatMap fun f => (f.check v).details

theorem complaintsInOrder (v : Json) : complaints v =
    (Figure.files.check v).details ++ (Figure.functions.check v).details ++
      (Figure.types.check v).details ++ (Figure.values.check v).details ++
      (Figure.entries.check v).details ++ (Figure.pending.check v).details := by
  simp [complaints, Figure.all]

theorem complaintsExactly {d : Detail} :
    d ∈ complaints v ↔ ∃ (f : Figure) (e : Violation), f.Misstates v e ∧ d = f.complaint e := by
  have any : ∀ f : Figure, f ∈ Figure.all := by rintro (_ | _) <;> simp [Figure.all]
  simp only [complaints, List.mem_flatMap, any, true_and]
  constructor
  · rintro ⟨f, told⟩
    cases checked : f.check v with
    | ok n => simp [checked, Schema.Checked.details] at told
    | error ds =>
      obtain ⟨e, wrong, rfl⟩ := Figure.misstatesExactly.mp checked
      simp only [checked, Schema.Checked.details, List.mem_singleton] at told
      exact ⟨f, e, wrong, told⟩
  · rintro ⟨f, e, wrong, rfl⟩
    have checked := Figure.misstatesExactly.mpr ⟨e, wrong, rfl⟩
    exact ⟨f, by simp [checked, Schema.Checked.details]⟩

def gathered (v : Json) : Except Fault Statistics :=
  match Figure.files.check v, Figure.functions.check v, Figure.types.check v,
    Figure.values.check v, Figure.entries.check v, Figure.pending.check v with
  | .ok files, .ok functions, .ok types, .ok values, .ok entries, .ok pending =>
    .ok ⟨files, functions, types, values, entries, pending⟩
  | _, _, _, _, _, _ => .error (.malformed (.schema ⟨"ServerInfo", complaints v⟩))

theorem gatheredStated {x : Statistics} (each : ∀ f : Figure, f.check v = .ok (f.of x)) :
    gathered v = .ok x := by
  simp only [gathered, each, Figure.of]

theorem gatheredMisstated {f : Figure} {ds : List Detail} (wrong : f.check v = .error ds) :
    gathered v = .error (.malformed (.schema ⟨"ServerInfo", complaints v⟩)) := by
  unfold gathered
  split
  · cases f <;> simp_all
  · rfl

theorem statedOrWrong (v : Json) : (∃ x, ∀ f : Figure, f.check v = .ok (f.of x)) ∨
    ∃ (f : Figure) (ds : List Detail), f.check v = .error ds := by
  by_cases wrong : ∃ (f : Figure) (ds : List Detail), f.check v = .error ds
  · exact .inr wrong
  · have each : ∀ f : Figure, ∃ n, f.check v = .ok n := by
      intro f
      cases checked : f.check v with
      | ok n => exact ⟨n, rfl⟩
      | error ds => exact absurd ⟨f, ds, checked⟩ wrong
    choose n stated using each
    refine .inl ⟨⟨n .files, n .functions, n .types, n .values, n .entries, n .pending⟩, ?_⟩
    intro f
    cases f <;> exact stated _

theorem orderlyGathered (orderly : Orderly (.object members)) :
    Statistics.ofWire (.object members) = gathered (.object members) := by
  obtain ⟨index, indexed, inIndex⟩ := orderlyMembers (orderly .files)
  obtain ⟨project, projected, inProject⟩ := orderlyMembers (orderly .entries)
  obtain ⟨pipeline, piped, inPipeline⟩ := orderlyMembers (orderly .pending)
  have files := Figure.countChecked (f := .files) nofun inIndex
  have functions := Figure.countChecked (f := .functions) nofun inIndex
  have types := Figure.countChecked (f := .types) nofun inIndex
  have values := Figure.countChecked (f := .values) nofun inIndex
  have entries := Figure.countChecked (f := .entries) nofun inProject
  have pending := Figure.pendingChecked inPipeline
  simp only [Figure.part, Figure.name, Figure.told] at *
  simp only [Statistics.ofWire, indexed, projected, piped, bind, Except.bind, files, functions,
    types, values, entries, pending, ← complaintsInOrder]
  rfl

theorem strayEscapes {f : Figure} (stray : Stray f.part v) :
    Statistics.ofWire v = .error (.raised .noSuchMember) := by
  have either : ∀ name, Statistics.sectionOf name v = .error (.raised .noSuchMember) ∨
      ∃ members, Statistics.sectionOf name v = .ok members := by
    intro name
    by_cases stray : Stray name v
    · exact .inl (strayRaised stray)
    · obtain ⟨members, read, _⟩ := orderlyMembers stray
      exact .inr ⟨members, read⟩
  have raised := strayRaised stray
  cases v with
  | scalar s =>
    obtain ⟨w, found, _⟩ := stray
    cases found
  | list items =>
    obtain ⟨w, found, _⟩ := stray
    cases found
  | object members =>
    unfold Statistics.ofWire
    rcases either "db" with index | ⟨index, indexed⟩
    · simp only [index, bind, Except.bind]
    rcases either "project" with project | ⟨project, projected⟩
    · simp only [indexed, project, bind, Except.bind]
    rcases either "pipeline" with pipeline | ⟨pipeline, piped⟩
    · simp only [indexed, projected, pipeline, bind, Except.bind]
    cases f <;> simp_all [Figure.part]

inductive Comes (v : Json) : Except Fault Statistics → Prop
  | stranger (other : ∀ members, v ≠ .object members) :
      Comes v (.error (.malformed (.notObject v.sortName)))
  | stray {f : Figure} (stray : Stray f.part v) : Comes v (.error (.raised .noSuchMember))
  | stated {members : List (String × Json)} {x : Statistics} (object : v = .object members)
      (orderly : Orderly v) (each : ∀ f : Figure, f.States v (f.of x)) : Comes v (.ok x)
  | misstated {members : List (String × Json)} {f : Figure} {e : Violation}
      (object : v = .object members) (orderly : Orderly v) (wrong : f.Misstates v e) :
      Comes v (.error (.malformed (.schema ⟨"ServerInfo", complaints v⟩)))

theorem ofWireComes (v : Json) : Comes v (Statistics.ofWire v) := by
  by_cases orderly : Orderly v
  · cases v with
    | scalar s => exact .stranger nofun
    | list items => exact .stranger nofun
    | object members =>
      rw [orderlyGathered orderly]
      rcases statedOrWrong (.object members) with ⟨x, each⟩ | ⟨f, ds, checked⟩
      · rw [gatheredStated each]
        exact .stated rfl orderly fun f => Figure.statesExactly.mp (each f)
      · obtain ⟨e, wrong, _⟩ := Figure.misstatesExactly.mp checked
        rw [gatheredMisstated checked]
        exact .misstated rfl orderly wrong
  · obtain ⟨f, stray⟩ := not_forall_not.mp orderly
    rw [strayEscapes stray]
    exact .stray stray

theorem comesOnce (comes : Comes v out) : Statistics.ofWire v = out := by
  cases comes with
  | stranger other =>
    cases v with
    | scalar s => rfl
    | list items => rfl
    | object members => exact absurd rfl (other members)
  | stray stray => exact strayEscapes stray
  | stated object orderly each =>
    subst object
    rw [orderlyGathered orderly, gatheredStated fun f => Figure.statesExactly.mpr (each f)]
  | misstated object orderly wrong =>
    subst object
    rw [orderlyGathered orderly, gatheredMisstated (Figure.misstatesExactly.mpr ⟨_, wrong, rfl⟩)]

theorem comesExactly : Statistics.ofWire v = out ↔ Comes v out := by
  refine ⟨?_, comesOnce⟩
  rintro rfl
  exact ofWireComes v

def Told (out : Except Fault Statistics) : Prop :=
  (∃ x, out = .ok x) ∨ ∃ fault, out = .error fault ∧ fault.isHierarchy = true

theorem raisedUntold {r : Raised} : ¬ Told (.error (.raised r)) := by
  rintro (⟨x, ok⟩ | ⟨fault, failed, contained⟩)
  · cases ok
  · cases failed
    cases contained

theorem readTold : Told (Statistics.ofWire v) ↔ Orderly v := by
  constructor
  · intro told f stray
    rw [strayEscapes stray] at told
    exact raisedUntold told
  · intro orderly
    have comes := ofWireComes v
    generalize Statistics.ofWire v = out at comes
    cases comes with
    | stranger => exact .inr ⟨_, rfl, rfl⟩
    | stray stray => exact absurd stray (orderly _)
    | stated => exact .inl ⟨_, rfl⟩
    | misstated => exact .inr ⟨_, rfl, rfl⟩

end Reply

section Requests

variable {σ : Type} (client : Client σ) (p : Plan) (c : Connection) (s : σ)

inductive Reports : Except Fault Statistics → Prop
  | idle (idle : c.held = none) : Reports (.error (.notStarted p.settings.methods.info))
  | failed {n : Nat} {r : Raised} (held : c.held = some n)
      (fails : (client n (.request p.settings.methods.info .null) s).1 = .error r) :
      Reports (.error (.backend p.settings.methods.info (some r)))
  | replied {n : Nat} {v : Value} {out : Except Fault Statistics} (held : c.held = some n)
      (replies : (client n (.request p.settings.methods.info .null) s).1 = .ok v)
      (comes : Comes v.plain out) : Reports out

def Strays : Prop :=
  ∃ n v, c.held = some n ∧
    (client n (.request p.settings.methods.info .null) s).1 = .ok v ∧ ¬ Orderly v.plain

variable {client p c s} {n : Nat} {out : Except Fault Statistics}

theorem statisticsIdle (idle : c.held = none) :
    (c.statistics client p s).1 = .error (.notStarted p.settings.methods.info) := by
  simp only [Connection.statistics, Connection.request, idle]

theorem statisticsFailed {r : Raised} (held : c.held = some n)
    (fails : (client n (.request p.settings.methods.info .null) s).1 = .error r) :
    (c.statistics client p s).1 = .error (.backend p.settings.methods.info (some r)) := by
  rcases answer : client n (.request p.settings.methods.info .null) s with ⟨told, t⟩
  rw [answer] at fails
  cases fails
  simp only [Connection.statistics, Connection.request, held, answer]

theorem statisticsReplied {v : Value} (held : c.held = some n)
    (replies : (client n (.request p.settings.methods.info .null) s).1 = .ok v) :
    (c.statistics client p s).1 = Statistics.ofWire v.plain := by
  rcases answer : client n (.request p.settings.methods.info .null) s with ⟨told, t⟩
  rw [answer] at replies
  cases replies
  simp only [Connection.statistics, Connection.request, held, answer]

theorem reportsExactly : (c.statistics client p s).1 = out ↔ Reports client p c s out := by
  constructor
  · rintro rfl
    cases held : c.held with
    | none =>
      rw [statisticsIdle held]
      exact .idle held
    | some n =>
      cases answer : (client n (.request p.settings.methods.info .null) s).1 with
      | error r =>
        rw [statisticsFailed held answer]
        exact .failed held answer
      | ok v =>
        rw [statisticsReplied held answer]
        exact .replied held answer (ofWireComes v.plain)
  · rintro (idle | ⟨held, fails⟩ | ⟨held, replies, comes⟩)
    · exact statisticsIdle idle
    · exact statisticsFailed held fails
    · exact (statisticsReplied held replies).trans (comesOnce comes)

theorem straysEscape (strays : Strays client p c s) :
    (c.statistics client p s).1 = .error (.raised .noSuchMember) := by
  obtain ⟨n, v, held, replies, other⟩ := strays
  obtain ⟨f, stray⟩ := not_forall_not.mp other
  rw [statisticsReplied held replies, strayEscapes stray]

theorem statisticsTold : Told (c.statistics client p s).1 ↔ ¬ Strays client p c s := by
  constructor
  · intro told strays
    rw [straysEscape strays] at told
    exact raisedUntold told
  · intro calm
    have reports : Reports client p c s (c.statistics client p s).1 := reportsExactly.mp rfl
    generalize (c.statistics client p s).1 = out at reports
    cases reports with
    | idle => exact .inr ⟨_, rfl, rfl⟩
    | failed => exact .inr ⟨_, rfl, rfl⟩
    | @replied n v _ held replies comes =>
      have orderly : Orderly v.plain := not_not.mp fun other => calm ⟨n, v, held, replies, other⟩
      rw [← comesOnce comes]
      exact readTold.mpr orderly

theorem raisedReports {r : Raised} :
    Reports client p c s (.error (.raised r)) ↔ r = .noSuchMember ∧ Strays client p c s := by
  rw [← reportsExactly]
  constructor
  · intro raised
    have strays : Strays client p c s := by
      by_contra calm
      have told := statisticsTold.mpr calm
      rw [raised] at told
      exact raisedUntold told
    cases raised.symm.trans (straysEscape strays)
    exact ⟨rfl, strays⟩
  · rintro ⟨rfl, strays⟩
    exact straysEscape strays

end Requests
end Server

namespace Cli
open Server (Client Connection Statistics Told Strays Reports)

section Command

variable {σ : Type} (client : Client σ) (f : Files) (e : Surroundings) (site : Site) (s : σ)

/- What the command that shows the figures comes to before it tells it. The server is stopped before
the figures are shown, so a stop that fails is told in place of them. -/
inductive Ends : Except Fault Statistics → Prop
  | unplanned {fault : Fault} (fails : site.plan f e = .error fault) : Ends (.error fault)
  | unstarted {p : Server.Plan} {fault : Fault} (planned : site.plan f e = .ok p)
      (fails : (Connection.start client p {} s).1 = .error fault) : Ends (.error fault)
  | unstopped {p : Server.Plan} {c : Connection} {t : σ} {fault : Fault}
      (planned : site.plan f e = .ok p) (started : Connection.start client p {} s = (.ok (), c, t))
      (fails : (c.stop client (c.statistics client p t).2).1 = .error fault) : Ends (.error fault)
  | asked {p : Server.Plan} {c : Connection} {t : σ} {out : Except Fault Statistics}
      (planned : site.plan f e = .ok p) (started : Connection.start client p {} s = (.ok (), c, t))
      (stopped : (c.stop client (c.statistics client p t).2).1 = .ok ())
      (reports : Reports client p c t out) : Ends out

inductive Escapes : Raised → Prop
  | plan {r : Raised} (fails : site.plan f e = .error (.raised r)) : Escapes r
  | start {p : Server.Plan} {r : Raised} (planned : site.plan f e = .ok p)
      (fails : (Connection.start client p {} s).1 = .error (.raised r)) : Escapes r
  | stop {p : Server.Plan} {c : Connection} {t : σ} {r : Raised} (planned : site.plan f e = .ok p)
      (started : Connection.start client p {} s = (.ok (), c, t))
      (fails : (c.stop client (c.statistics client p t).2).1 = .error (.raised r)) : Escapes r
  | reply {p : Server.Plan} {c : Connection} {t : σ} (planned : site.plan f e = .ok p)
      (started : Connection.start client p {} s = (.ok (), c, t))
      (stopped : (c.stop client (c.statistics client p t).2).1 = .ok ())
      (strays : Strays client p c t) : Escapes .noSuchMember

theorem someEnd : ∃ out, Ends client f e site s out := by
  cases planned : site.plan f e with
  | error fault => exact ⟨_, .unplanned planned⟩
  | ok p =>
    rcases started : Connection.start client p {} s with ⟨fault | _, c, t⟩
    · exact ⟨_, .unstarted planned (congrArg Prod.fst started)⟩
    · cases stopped : (c.stop client (c.statistics client p t).2).1 with
      | error fault => exact ⟨_, .unstopped planned started stopped⟩
      | ok _ => exact ⟨_, .asked planned started stopped (Server.reportsExactly.mp rfl)⟩

def Shown (x : Ending) : Prop := (∃ a, x = panelOf a) ∨ ∃ message, x = .failure message

def endingOf : Except Fault Statistics → Ending
  | .ok a => panelOf a
  | .error fault => .ofFault fault

variable {client f e site s} {out : Except Fault Statistics} {r : Raised}

theorem endingEscaped : (endingOf out).escaped = some r ↔ out = .error (.raised r) := by
  rcases out with (_ | _ | _ | _ | _ | _) | _ <;> simp [endingOf, Ending.ofFault, Ending.escape,
    Ending.failure, panelOf]

theorem endingShown : Shown (endingOf out) ↔ (endingOf out).escaped = none := by
  constructor
  · rintro (⟨a, panel⟩ | ⟨message, failure⟩)
    · rw [panel, panelOf]
    · rw [failure, Ending.failure]
  · intro silent
    cases out with
    | ok a => exact .inl ⟨a, rfl⟩
    | error fault =>
      cases fault with
      | raised r => cases silent
      | hierarchy | backend | notStarted | malformed | settings => exact .inr ⟨_, rfl⟩

theorem endTold (ends : Ends client f e site s out) :
    ((Request.statistics site).run client f e s).1 = endingOf out := by
  simp only [Request.run, printed, attended]
  cases ends with
  | unplanned fails => simp only [fails, endingOf]
  | @unstarted p fault planned fails =>
    rcases started : Connection.start client p {} s with ⟨told, c, t⟩
    rw [started] at fails
    cases fails
    simp only [planned, started, endingOf]
  | unstopped planned started fails => simp only [planned, started, fails, endingOf]
  | asked planned started stopped reports =>
    rw [← Server.reportsExactly.mpr reports]
    simp only [planned, started, stopped]
    split <;> simp_all [endingOf]

theorem endEscapes : Ends client f e site s (.error (.raised r)) ↔ Escapes client f e site s r := by
  constructor
  · intro ends
    cases ends with
    | unplanned fails => exact .plan fails
    | unstarted planned fails => exact .start planned fails
    | unstopped planned started fails => exact .stop planned started fails
    | asked planned started stopped reports =>
      obtain ⟨rfl, strays⟩ := Server.raisedReports.mp reports
      exact .reply planned started stopped strays
  · intro escapes
    cases escapes with
    | plan fails => exact .unplanned fails
    | start planned fails => exact .unstarted planned fails
    | stop planned started fails => exact .unstopped planned started fails
    | reply planned started stopped strays =>
      exact .asked planned started stopped (Server.raisedReports.mpr ⟨rfl, strays⟩)

variable (client f e site s) in
theorem runEnds : ∃ out, Ends client f e site s out ∧
    ((Request.statistics site).run client f e s).1 = endingOf out := by
  obtain ⟨out, ends⟩ := someEnd client f e site s
  exact ⟨out, ends, endTold ends⟩

theorem runEscapes : ((Request.statistics site).run client f e s).1.escaped = some r ↔
    Escapes client f e site s r := by
  rw [← endEscapes]
  constructor
  · intro escaped
    obtain ⟨out, ends, told⟩ := runEnds client f e site s
    rw [told, endingEscaped] at escaped
    rwa [← escaped]
  · intro ends
    rw [endTold ends, endingEscaped]

theorem runShown : Shown ((Request.statistics site).run client f e s).1 ↔
    ∀ r, ¬ Escapes client f e site s r := by
  obtain ⟨out, _, told⟩ := runEnds client f e site s
  rw [told, endingShown, Option.eq_none_iff_forall_ne_some, ← told]
  exact forall_congr' fun r => not_congr runEscapes

end Command

/- All that asking for the figures can come to. -/
structure Reported {σ : Type} (client : Client σ) : Prop where
  reports : ∀ p c s out, (Connection.statistics client p c s).1 = out ↔ Reports client p c s out
  told : ∀ p c s, Told (Connection.statistics client p c s).1 ↔ ¬ Strays client p c s
  ends : ∀ f e site s, ∃ out, Ends client f e site s out ∧
    ((Request.statistics site).run client f e s).1 = endingOf out
  escapes : ∀ f e site s r,
    ((Request.statistics site).run client f e s).1.escaped = some r ↔ Escapes client f e site s r
  shown : ∀ f e site s, Shown ((Request.statistics site).run client f e s).1 ↔
    ∀ r, ¬ Escapes client f e site s r

/- A reply comes to the figures it states, or is refused with a complaint for each figure it
misstates; only a section without members is not told as a fault of the reply. So a request for the
figures is told unless its reply has such a section, and the command that shows them ends in a panel
or in one line unless that, its plan, or the start or the stop of its server lets a failure out. -/
theorem figuresReported {σ : Type} (client : Client σ) :
    (∀ v out, Statistics.ofWire v = out ↔ Server.Comes v out) ∧
      (∀ v d, d ∈ Server.complaints v ↔
        ∃ (f : Server.Figure) (e : Schema.Violation), f.Misstates v e ∧ d = f.complaint e) ∧
      Reported client where
  left _ _ := Server.comesExactly
  right := ⟨fun _ _ => Server.complaintsExactly, {
    reports _ _ _ _ := Server.reportsExactly
    told _ _ _ := Server.statisticsTold
    ends := runEnds client
    escapes _ _ _ _ _ := runEscapes
    shown _ _ _ _ := runShown }⟩

def astray : Server.Script where
  replies := [.ok (.object [("db", .list [.scalar (.int 1)])])]

theorem astrayUntold :
    ¬ Told (Connection.statistics Server.Script.client plainPlan ⟨some 0, 1⟩ astray).1 ∧
      ¬ Shown ((Request.statistics {}).run Server.Script.client {} plainPlan.surroundings
        astray).1 := by
  have raised : (Connection.statistics Server.Script.client plainPlan ⟨some 0, 1⟩ astray).1 =
      .error (.raised .noSuchMember) := rfl
  have escaped : ((Request.statistics {}).run Server.Script.client {} plainPlan.surroundings
      astray).1.escaped = some .noSuchMember := by rfl
  rw [raised]
  exact ⟨Server.raisedUntold, fun shown => runShown.mp shown _ (runEscapes.mp escaped)⟩

end Cli
end SymbolHierarchy
