import SymbolHierarchy.Server.Client
import SymbolHierarchy.Server.Statistics
import SymbolHierarchy.Settings.Basic
import SymbolHierarchy.Files
import SymbolHierarchy.Paths
import SymbolHierarchy.Query.Basic

/-! The connection to one server. A client is held from a start that succeeded
to the next stop, and is stopped once it is no longer held; a start that fails
stops the client it created and tells what failed first. -/
namespace SymbolHierarchy.Server

structure Plan where
  /-- Absolute, without double dots. -/
  root : Path
  settings : Settings
  paths : Paths
  surroundings : Surroundings
  files : Files

def Plan.make (e : Surroundings) (f : Files) (root : Path) (settings : Settings)
    (given : Option Paths) : Except Raised Plan := do
  let root ← e.resolve root
  let paths ← match given with
    | some p => .ok p
    | none => Paths.ofEntries e settings.rules
  .ok ⟨root, settings, paths, e, f⟩

namespace Plan

def rootUri (p : Plan) : String := p.paths.toServer p.root.uri

def launch (p : Plan) : Call :=
  .launch p.settings.launch.command p.settings.launch.arguments p.root.text
    (p.settings.environment p.surroundings)

def introduction (p : Plan) : Except Raised Introduction := do
  .ok ⟨p.rootUri, String.ofList p.root.name, ← p.settings.options p.root⟩

def method (p : Plan) : Kind → String
  | .call => p.settings.methods.call
  | .inheritance => p.settings.methods.inheritance

end Plan

structure Connection where
  held : Option Nat := none
  created : Nat := 0
  deriving DecidableEq, Repr

namespace Connection

variable {σ : Type}

def isRunning (c : Connection) : Bool := c.held.isSome

def handshake (client : Client σ) (p : Plan) (n : Nat) (s : σ) : Except Raised Value × σ :=
  match client n p.launch s with
  | (.error r, s) => (.error r, s)
  | (.ok _, s) =>
    match p.introduction with
    | .ok i => client n (.introduce i) s
    | .error r => (.error r, s)

def start (client : Client σ) (p : Plan) (c : Connection) (s : σ) :
    Except Fault Unit × Connection × σ :=
  match c.held with
  | some _ => (.ok (), c, s)
  | none =>
    let n := c.created
    let c := { c with created := n + 1 }
    match client n (.create "symtree" "0.1.0") s with
    | (.error r, s) => (.error (.raised r), c, s)
    | (.ok _, s) =>
      match handshake client p n s with
      | (.error r, s) => (.error (.backend "initialize" (some r)), c, (client n .stop s).2)
      | (.ok _, s) =>
        match client n .introduced s with
        | (.error r, s) => (.error (.raised r), c, s)
        | (.ok _, s) => (.ok (), { c with held := some n }, s)

def farewell (client : Client σ) (n : Nat) (s : σ) : σ :=
  match client n .shutdown s with
  | (.ok _, s) => (client n .exit s).2
  | (.error _, s) => s

def stop (client : Client σ) (c : Connection) (s : σ) : Except Fault Unit × Connection × σ :=
  match c.held with
  | none => (.ok (), c, s)
  | some n =>
    let (r, s) := client n .stop (farewell client n s)
    (match r with
      | .ok _ => .ok ()
      | .error r => .error (.raised r), { c with held := none }, s)

def request (client : Client σ) (c : Connection) (method : String) (params : Json) (s : σ) :
    Except Fault Json × σ :=
  match c.held with
  | none => (.error (.notStarted method), s)
  | some n =>
    match client n (.request method params) s with
    | (.ok v, s) => (.ok v.plain, s)
    | (.error r, s) => (.error (.backend method (some r)), s)

def query (client : Client σ) (p : Plan) (c : Connection) (k : Kind) (params : Json) (s : σ) :
    Except Fault Json × σ :=
  c.request client (p.method k) params s

def statistics (client : Client σ) (p : Plan) (c : Connection) (s : σ) :
    Except Fault Statistics × σ :=
  match c.request client p.settings.methods.info .null s with
  | (.ok v, s) => (Statistics.ofWire v, s)
  | (.error f, s) => (.error f, s)

def reload (client : Client σ) (p : Plan) (c : Connection) (s : σ) : Except Fault Unit × σ :=
  let method := p.settings.methods.reload
  match c.held with
  | none => (.error (.notStarted method), s)
  | some n =>
    match client n (.notify method) s with
    | (.ok _, s) => (.ok (), s)
    | (.error r, s) => (.error (.raised r), s)

def languages : List (String × String) :=
  [(".c", "c"), (".h", "cpp"), (".cc", "cpp"), (".cpp", "cpp"), (".cxx", "cpp"), (".hh", "cpp"),
   (".hpp", "cpp"), (".hxx", "cpp"), (".m", "objective-c"), (".mm", "objective-cpp")]

def languageOf (p : Path) : String :=
  let suffix := (String.ofList p.suffix).toLower
  ((languages.find? fun l => l.1 = suffix).map Prod.snd).getD "cpp"

def openDocument (client : Client σ) (p : Plan) (c : Connection) (path : Path) (s : σ) :
    Except Fault String × σ :=
  match c.held with
  | none => (.error (.notStarted "textDocument/didOpen"), s)
  | some n =>
    match p.surroundings.resolve path, p.files.read p.surroundings path with
    | .error r, _ | .ok _, .error r => (.error (.raised r), s)
    | .ok resolved, .ok bytes =>
      let uri := p.paths.toServer resolved.uri
      let text := String.ofList (Text.unifyLines (Text.decodeUtf8 bytes))
      let document := [("languageId", Json.text (languageOf path)), ("text", .text text),
        ("uri", .text uri), ("version", .int 1)]
      match client n (.didOpen document) s with
      | (.ok _, s) => (.ok uri, s)
      | (.error r, s) => (.error (.raised r), s)

end Connection
end SymbolHierarchy.Server
