import SymbolHierarchy.Cli.Run
import SymbolHierarchy.Proofs.Server.Lifecycle
import SymbolHierarchy.Proofs.View.Serving

/-! The client that a request is run by. Whatever its work comes to, the work only asks it for
things, and the stop behind the work is the last that is asked of it. -/
namespace SymbolHierarchy.Cli
open Server (Client Connection Plan Busy Steady noted)

variable {σ : Type} {client : Client σ} {P : σ → Prop} {n : Nat} {p : Plan} {c : Connection}
  {s x y z : σ × List Server.Entry}

structure Busied (P : σ → Prop) (n : Nat) (x y : σ × List Server.Entry) : Prop where
  keeps : P x.1 → P y.1
  calls : ∃ body, Busy n body ∧ y.2 = x.2 ++ body

namespace Busied

theorem refl : Busied P n x x where
  keeps := id
  calls := ⟨[], Server.busyNil, (List.append_nil _).symm⟩

theorem trans (first : Busied P n x y) (second : Busied P n y z) : Busied P n x z where
  keeps := second.keeps ∘ first.keeps
  calls := by
    obtain ⟨front, busy, told⟩ := first.calls
    obtain ⟨back, busy', told'⟩ := second.calls
    exact ⟨front ++ back, busy.append busy', by rw [told', told, List.append_assoc]⟩

end Busied

theorem callBusied (steady : Steady client P) (n : Nat) (call : Server.Call)
    (create : call.isCreate = false) (stop : call.isStop = false) (s : σ × List Server.Entry) :
    Busied P n s (noted client n call s).2 where
  keeps := steady.keeps n call s.1
  calls := ⟨_, Server.busyOne create stop, rfl⟩

theorem requestBusied (steady : Steady client P) (held : c.held = some n) (method : String)
    (params : Json) (s : σ × List Server.Entry) :
    Busied P n s (c.request (noted client) method params s).2 := by
  have asked := callBusied steady n (.request method params) rfl rfl s
  simp only [Connection.request, held]
  split <;> simp_all

theorem queriedBusied (steady : Steady client P) (held : c.held = some n) (k : Kind)
    (queried : Queried (c.query (noted client) p k) x y) : Busied P n x y := by
  induction queried with
  | refl => exact .refl
  | tail _ step ih =>
    obtain ⟨params, rfl⟩ := step
    exact ih.trans (requestBusied steady held _ params _)

def Diligent {α : Type} (P : σ → Prop) (work : Work (σ × List Server.Entry) α) : Prop :=
  ∀ {n : Nat} {c : Connection}, c.held = some n → ∀ s, Busied P n s (work c s).2

theorem reloadDiligent (steady : Steady client P) (p : Plan) :
    Diligent P fun c s => c.reload (noted client) p s := by
  intro n c held s
  have asked := callBusied steady n (.notify p.settings.methods.reload) rfl rfl s
  simp only [Connection.reload, held]
  split <;> simp_all

theorem statisticsDiligent (steady : Steady client P) (p : Plan) :
    Diligent P fun c s => c.statistics (noted client) p s := by
  intro n c held s
  have asked := requestBusied steady held p.settings.methods.info .null s
  simp only [Connection.statistics]
  split <;> simp_all

theorem documentDiligent (steady : Steady client P) (p : Plan) (file : Path) :
    Diligent P fun c s => c.openDocument (noted client) p file s := by
  intro n c held s
  simp only [Connection.openDocument, held]
  split
  · exact .refl
  · exact .refl
  · rename_i resolved bytes _ _
    have asked := callBusied steady n (.didOpen [("languageId", .text (Connection.languageOf file)),
      ("text", .text (String.ofList (Text.unifyLines (Text.decodeUtf8 bytes)))),
      ("uri", .text (p.paths.toServer resolved.uri)), ("version", .int 1)]) rfl rfl s
    split <;> simp_all

theorem layOpenDiligent (steady : Steady client P) (p : Plan) (kind : Kind)
    (position : DocumentPosition) (choices : Choices) :
    Diligent P (layOpen (noted client) p kind position choices) := by
  intro n c held s
  have opened := queriedBusied steady held kind
    (Served.openRootQueried (c.query (noted client) p kind) position ⟨{ kind := kind }, s⟩)
  rcases told : Served.openRoot (c.query (noted client) p kind) position ⟨{ kind := kind }, s⟩
    with ⟨v, r⟩
  rw [told] at opened
  simp only [layOpen, told]
  split
  · exact opened
  · exact opened
  · exact opened
  · rename_i h _
    have laid := queriedBusied steady held kind (Outline.buildQueried
      (c.query (noted client) p kind) p.settings.icons choices.depth h v)
    rcases drawn : Outline.build (c.query (noted client) p kind) p.settings.icons choices.depth h v
      with ⟨w, o⟩
    rw [drawn] at laid
    split <;> exact opened.trans laid

theorem exploredDiligent (steady : Steady client P) (p : Plan) (kind : Kind) (file : Path)
    (place : Place) (choices : Choices) :
    Diligent P (explored (noted client) p kind file place choices) := by
  intro n c held s
  have announced := documentDiligent steady p file held s
  rcases told : c.openDocument (noted client) p file s with ⟨r, t⟩
  simp only [told] at announced
  simp only [explored, told]
  cases r with
  | error fault => exact announced
  | ok uri =>
    cases located : DocumentPosition.ofEditor uri place.line place.column with
    | error r => simpa only [located] using announced
    | ok position =>
      have laid := layOpenDiligent steady p kind position choices held t
      simpa only [located] using announced.trans laid

/- All calls of a server that was started: to one client, which is stopped once, at the end. -/
def Spent (calls : List Server.Entry) : Prop :=
  ∃ made body answer, Busy 0 body ∧
    calls = [⟨0, .create "symtree" "0.1.0", made⟩] ++ body ++ [⟨0, .stop, answer⟩]

theorem attendedSpent {α : Type} {work : Work (σ × List Server.Entry) α} {s : σ}
    (steady : Steady client P) (fits : P s) (p : Plan) (diligent : Diligent P work) :
    Spent (attended (noted client) p work (s, [])).2.2.2 := by
  rcases run : Connection.start (noted client) p {} (s, []) with ⟨r, c, t, log⟩
  obtain ⟨begun, kept⟩ := Connection.startBegun steady fits run
  cases begun with
  | running held => cases held
  | @failed calls made cause answer idle shaken =>
    refine ⟨made, calls, answer, Connection.shakenBusy shaken, ?_⟩
    simp [attended, run]
  | @started body made idle busy =>
    have begins : Connection.start (noted client) p {} (s, []) =
      (.ok (), ⟨some 0, 1⟩, t, [⟨0, .create "symtree" "0.1.0", made⟩] ++ body) := run
    have worked := diligent (c := ⟨some 0, 1⟩) rfl
      (t, [⟨0, .create "symtree" "0.1.0", made⟩] ++ body)
    rcases done : work ⟨some 0, 1⟩ (t, [⟨0, .create "symtree" "0.1.0", made⟩] ++ body)
      with ⟨a, u, calls⟩
    rw [done] at worked
    obtain ⟨more, busy', told⟩ := worked.calls
    rcases last : Connection.stop (noted client) ⟨some 0, 1⟩ (u, calls) with ⟨r, c, w, log⟩
    obtain ⟨ended, -⟩ := Connection.stopEnded steady (worked.keeps kept) last
    cases ended with
    | idle held => cases held
    | @released m rest _ answer held busy'' =>
      cases held
      refine ⟨made, body ++ more ++ rest, answer, (busy.append busy').append busy'', ?_⟩
      simp only [attended, begins, done, last]
      simp only at told
      simp [told]

section
variable {f : Files} {e : Surroundings} {s : σ}

def Request.plan? (f : Files) (e : Surroundings) : Request → Option Plan
  | .help _ | .version => none
  | .explore _ place choices =>
    match f.argument e place.file with
    | .ok _ => (choices.site.plan f e).toOption
    | .error _ => none
  | .statistics site | .reload site => (site.plan f e).toOption

theorem printedSpent {α : Type} {work : Plan → Work (σ × List Server.Entry) α}
    (steady : Steady client P) (fits : P s) (diligent : ∀ p, Diligent P (work p)) (site : Site)
    (print : α → Ending) :
    let calls := (printed (noted client) f e site work print (s, [])).2.2
    if (site.plan f e).toOption.isSome then Spent calls else calls = [] := by
  cases planned : site.plan f e with
  | error fault => simp [printed, planned, Except.toOption]
  | ok p =>
    have spent := attendedSpent steady fits p (diligent p)
    rcases run : attended (noted client) p (work p) (s, []) with ⟨r, stopped, t⟩
    rw [run] at spent
    cases stopped with
    | error fault => simpa [printed, planned, run, Except.toOption] using spent
    | ok _ => cases r <;> simpa [printed, planned, run, Except.toOption] using spent

theorem requestSpent (steady : Steady client P) (fits : P s) (x : Request) :
    let calls := (x.run (noted client) f e (s, [])).2.2
    if (x.plan? f e).isSome then Spent calls else calls = [] := by
  cases x with
  | help scope => simp [Request.run, Request.plan?]
  | version => simp [Request.run, Request.plan?]
  | explore kind place choices =>
    cases named : f.argument e place.file with
    | error r => cases r <;> simp [Request.run, Request.plan?, named]
    | ok file =>
      cases planned : choices.site.plan f e with
      | error fault =>
        simp [Request.run, Request.plan?, named, runExploration, planned, Except.toOption]
      | ok p =>
        have spent := attendedSpent steady fits p
          (exploredDiligent steady p kind file place choices)
        rcases run : attended (noted client) p (explored (noted client) p kind file place choices)
          (s, []) with ⟨r, stopped, t⟩
        rw [run] at spent
        cases stopped with
        | ok _ =>
          simpa [Request.run, Request.plan?, named, runExploration, planned, run, Except.toOption]
            using spent
        | error fault =>
          cases fault <;> simpa [Request.run, Request.plan?, named, runExploration, planned, run,
            Except.toOption] using spent
  | statistics site => exact printedSpent steady fits (statisticsDiligent steady) site _
  | reload site => exact printedSpent steady fits (reloadDiligent steady) site _

end

/- However a connection is used and whatever its clients answer, it holds a client from a start that
succeeded to the next stop, and every client that it does not hold was stopped once. So was the
client of a request, however its work ended. -/
theorem clientsTended {s : σ} (steady : Steady client P) (fits : P s) :
    (∀ plan uses, Server.Life.Tended client plan
      (Server.Life.after client plan { server := s } uses)) ∧
    ∀ f e (x : Request),
      let calls := (x.run (noted client) f e (s, [])).2.2
      if (x.plan? f e).isSome then Spent calls else calls = [] := by
  refine ⟨fun plan uses => ?_, fun f e x => requestSpent steady fits x⟩
  obtain ⟨tidy, kept⟩ :=
    Server.Life.afterTidy plan steady uses fits (Server.Life.newTidy s)
  exact Server.Life.tidyTended steady kept tidy

def balky : Server.Script where
  failures := [("start_io", [some "no such program"]), ("stop", [some "busy", some "gone"]),
    ("shutdown", [some "lost"]), ("request", [some "lost"])]

def plainPlan : Plan where
  root := ⟨['/'], []⟩
  settings := {}
  paths := {}
  surroundings := { directory := ⟨['/'], []⟩, environment := [] }
  files := {}

def restless : List Server.Use := [.start, .start, .start, .request "info" .null, .stop,
  .request "info" .null]

theorem clientsTendedBalky :
    let l := Server.Life.after Server.Script.client plainPlan { server := balky } restless
    Server.Script.Admits balky ∧ Server.Life.Tended Server.Script.client plainPlan l ∧
      l.connection = ⟨none, 2⟩ ∧ Server.stops 0 l.log = 1 ∧ Server.stops 1 l.log = 1 := by
  have admits : Server.Script.Admits balky := by simp [Server.Script.Admits, balky]
  have tended := (clientsTended Server.Script.clientSteady admits).1 plainPlan restless
  refine ⟨admits, tended, rfl, ?_, ?_⟩
  · exact tended.ended 0
  · exact tended.ended 1

end SymbolHierarchy.Cli
