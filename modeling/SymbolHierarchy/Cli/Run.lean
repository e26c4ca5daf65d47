import SymbolHierarchy.Cli.Request
import SymbolHierarchy.Controller.Answer
import SymbolHierarchy.Data.Printer
import SymbolHierarchy.Server.Connection
import SymbolHierarchy.Settings.File
import SymbolHierarchy.View.Drawing

/-! Running a request. A server is started for it and stopped behind it, also
where the work failed. Hierarchy faults are told in one line; what surrounding
code raises goes out as it is. -/
namespace SymbolHierarchy.Cli

structure Ending where
  code : Nat := 0
  out : String := ""
  err : String := ""
  escaped : Option Raised := none
  deriving DecidableEq, Repr

namespace Ending

def escape (r : Raised) : Ending := { code := 1, escaped := some r }

def failure (message : String) : Ending := { code := 1, err := errorLine message }

def misuse (m : Misuse) : Ending :=
  match m.flaw with
  | .unspeakable => escape .nulByte
  | _ => { code := 2, err := m.text }

def ofFault : Fault → Ending
  | .raised r => escape r
  | f => failure f.message

def interrupted (x : Ending) (r : Raised) : Ending := { x with code := 1, escaped := some r }

end Ending

section
variable {σ : Type} (client : Server.Client σ) (f : Files) (e : Surroundings)

def raising {α : Type} : Except Raised α → Except Fault α
  | .ok a => .ok a
  | .error r => .error (.raised r)

def Site.plan (x : Site) : Except Fault Server.Plan := do
  let root ← raising (e.resolve (Path.ofString x.root))
  let settings ← Settings.load f e root (x.settings.map Path.ofString)
  raising (Server.Plan.make e f root settings none)

abbrev Work (σ α : Type) := Server.Connection → σ → Except Fault α × σ

def attended {α : Type} (p : Server.Plan) (work : Work σ α) (s : σ) :
    Except Fault α × Except Fault Unit × σ :=
  match Server.Connection.start client p {} s with
  | (.error fault, _, s) => (.error fault, .ok (), s)
  | (.ok _, c, s) =>
    let (r, s) := work c s
    let (stopped, _, s) := c.stop client s
    (r, stopped, s)

def printed {α : Type} (x : Site) (work : Server.Plan → Work σ α) (print : α → Ending) (s : σ) :
    Ending × σ :=
  match x.plan f e with
  | .error fault => (.ofFault fault, s)
  | .ok p =>
    match attended client p (work p) s with
    | (_, .error fault, s) => (.ofFault fault, s)
    | (.error fault, .ok _, s) => (.ofFault fault, s)
    | (.ok a, .ok _, s) => (print a, s)

def rendered (c : Choices) (root : Option Node) (o : Outline) : Except Raised String :=
  if c.json then .ok (match root with
    | some n => n.wire.block ++ "\n"
    | none => "")
  else o.draw.map linesText

def replaced : Ending :=
  { code := 1, out := warningLine "Hierarchy was replaced before it finished loading" }

def layOpen (p : Server.Plan) (kind : Kind) (position : DocumentPosition) (c : Choices) :
    Work σ Ending := fun connection s =>
  let serve : Serving σ := connection.query client p kind
  let (v, opened) := Served.openRoot serve position ⟨{ kind := kind }, s⟩
  match Answer.contain opened with
  | .error r => (.error (.raised r), v.server)
  | .ok (.err fault) =>
    (.ok (.failure ("Could not open " ++ kind.name ++ " hierarchy: " ++ fault.message)), v.server)
  | .ok (.ok none) => (.ok replaced, v.server)
  | .ok (.ok (some h)) =>
    let (v, o) := Outline.build serve p.settings.icons c.depth h v
    match o >>= rendered c (v.session.forest.tree? h) with
    | .error r => (.error (.raised r), v.server)
    | .ok text => (.ok { out := text }, v.server)

def explored (p : Server.Plan) (kind : Kind) (file : Path) (x : Place) (c : Choices) :
    Work σ Ending := fun connection s =>
  match connection.openDocument client p file s with
  | (.error fault, s) => (.error fault, s)
  | (.ok uri, s) =>
    match DocumentPosition.ofEditor uri x.line x.column with
    | .error r => (.error (.raised r), s)
    | .ok position => layOpen client p kind position c connection s

def commandOf : Kind → Command
  | .call => .calls
  | .inheritance => .inheritance

/-- Prints before the stop, so that a failed stop leaves what was printed. -/
def runExploration (kind : Kind) (file : Path) (x : Place) (c : Choices) (s : σ) : Ending × σ :=
  match c.site.plan f e with
  | .error fault => (.ofFault fault, s)
  | .ok p =>
    let (r, stopped, s) := attended client p (explored client p kind file x c) s
    let done := match r with
      | .ok x => x
      | .error fault => .ofFault fault
    match stopped with
    | .ok _ => (done, s)
    | .error (.raised r) => (done.interrupted r, s)
    | .error fault => (.ofFault fault, s)

def panelOf (x : Server.Statistics) : Ending :=
  { out := linesText (panel ("backend: " ++ x.status) x.tooltip) }

def reloaded : Unit → Ending := fun _ => { out := line "✅ Reload requested" }

def versionLine : String := line (programName ++ ", version 0.1.0")

def Request.run (x : Request) (s : σ) : Ending × σ :=
  match x with
  | .help scope => ({ out := scope.page }, s)
  | .version => ({ out := versionLine }, s)
  | .explore kind place choices =>
    match f.argument e place.file with
    | .error (.badArgument text) => (.misuse ⟨.command (commandOf kind), .notFile text⟩, s)
    | .error r => (.escape r, s)
    | .ok file => runExploration client f e kind file place choices s
  | .statistics site =>
    printed client f e site (fun p c s => c.statistics client p s) panelOf s
  | .reload site => printed client f e site (fun p c s => c.reload client p s) reloaded s

def run (arguments : List String) (s : σ) : Ending × σ :=
  match Request.ofArguments f e arguments with
  | .error m => (.misuse m, s)
  | .ok x => x.run client f e s

end
end SymbolHierarchy.Cli
