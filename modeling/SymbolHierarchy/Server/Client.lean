import SymbolHierarchy.Server.Value
import SymbolHierarchy.Data.Document
import SymbolHierarchy.Fault

/-! The client side of a language server, as calls and their answers. Clients
are numbered in the order they are created. A prepared client answers from a
list of replies, and fails where a failure was made ready for a call. -/
namespace SymbolHierarchy.Server

/-- What a client tells of the workspace; its one folder has the root's URI. -/
structure Introduction where
  rootUri : String
  folder : String
  options : List (String × Document)
  deriving Repr

inductive Call
  | create (name version : String)
  | launch (command : String) (arguments : List String) (directory : String)
      (environment : List (String × String))
  | introduce (params : Introduction)
  | introduced
  | didOpen (document : List (String × Json))
  | request (method : String) (params : Json)
  | notify (method : String)
  | shutdown
  | exit
  | stop
  deriving Repr

/-- What a client answers to a call; the value counts for requests only. -/
abbrev Client (σ : Type) := Nat → Call → σ → Except Raised Value × σ

def Call.name : Call → String
  | .create _ _ => "client"
  | .launch _ _ _ _ => "start_io"
  | .introduce _ => "initialize"
  | .introduced => "initialized"
  | .didOpen _ => "didOpen"
  | .request _ _ => "request"
  | .notify _ => "notify"
  | .shutdown => "shutdown"
  | .exit => "exit"
  | .stop => "stop"

structure Script where
  replies : List (Except Raised Value) := []
  failures : List (String × List (Option String)) := []
  log : List Call := []

namespace Script

def takeFailure (name : String) :
    List (String × List (Option String)) → Option String × List (String × List (Option String))
  | [] => (none, [])
  | (n, fs) :: rest =>
    if n = name then (fs.head?.join, (n, fs.drop 1) :: rest)
    else
      let (f, rest) := takeFailure name rest
      (f, (n, fs) :: rest)

def reply (s : Script) : Except Raised Value × Script :=
  match s.replies with
  | [] => (.error (.runtime "no scripted reply"), s)
  | r :: rest => (r, { s with replies := rest })

def client : Client Script := fun _ call s =>
  let (failure, failures) := takeFailure call.name s.failures
  let s := { s with log := s.log ++ [call], failures := failures }
  match failure, call with
  | some text, _ => (.error (.runtime text), s)
  | none, .request _ _ => s.reply
  | none, _ => (.ok (.scalar .null), s)

end Script
end SymbolHierarchy.Server
