import SymbolHierarchy.Path.Uri

/-! Rules between the file system of a client and that of a server. A rule pairs
two URI prefixes; every rule whose prefix fits is applied, in order, to what the
rules before it have made. -/
namespace SymbolHierarchy

structure Rule where
  client : List Char
  server : List Char
  deriving DecidableEq, Repr

namespace Rule

def exchange (old new uri : List Char) : List Char :=
  if old.isPrefixOf uri then new ++ uri.drop old.length else uri

def toServer (r : Rule) (uri : List Char) : List Char := exchange r.client r.server uri
def toClient (r : Rule) (uri : List Char) : List Char := exchange r.server r.client uri

end Rule

structure Paths where
  rules : List Rule := []
  deriving DecidableEq, Repr

namespace Paths

def serverChars (p : Paths) (uri : List Char) : List Char :=
  p.rules.foldl (fun u r => r.toServer u) uri

def clientChars (p : Paths) (uri : List Char) : List Char :=
  p.rules.foldl (fun u r => r.toClient u) uri

def toServer (p : Paths) (uri : String) : String := String.ofList (p.serverChars uri.toList)
def toClient (p : Paths) (uri : String) : String := String.ofList (p.clientChars uri.toList)

def entryValue (key : String) (entry : List (String × String)) : Option String :=
  (entry.find? fun e => e.1 = key).map Prod.snd

def required (key : String) (entry : List (String × String)) : Except Raised String :=
  match entryValue key entry with
  | some v => .ok v
  | none => .error (.missingKey key)

def ruleOf (e : Surroundings) (entry : List (String × String)) : Except Raised Rule := do
  let client ← match entryValue "client_uri" entry with
    | some u => if u.isEmpty then required "client" entry >>= Path.uriOf e else .ok u
    | none => required "client" entry >>= Path.uriOf e
  let server ← required "server" entry >>= Path.uriOf e
  .ok ⟨client.toList, server.toList⟩

def ofEntries (e : Surroundings) (entries : List (List (String × String))) :
    Except Raised Paths := do
  .ok ⟨← entries.mapM (ruleOf e)⟩

end Paths
end SymbolHierarchy
