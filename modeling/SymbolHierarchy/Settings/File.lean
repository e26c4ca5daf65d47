import SymbolHierarchy.Settings.Schema
import SymbolHierarchy.Yaml.Content
import SymbolHierarchy.Files

/-! Settings from their file. The file is the one named by the user, else the one
named by a variable, else the workspace's own; where there is none, or it holds
nothing, all settings are defaults. -/
namespace SymbolHierarchy.Settings

def fileVariable : String := "SYMTREE_CONFIG"

def ownFile : Path := Path.ofString ".symtree/config.yaml"

def fileOf (e : Surroundings) (root : Path) (explicit : Option Path) : Path :=
  match explicit with
  | some p => p
  | none =>
    match e.valueOf? fileVariable with
    | some name => if name.isEmpty then root.join ownFile else Path.ofString name
    | none => root.join ownFile

def ofDocument (path : String) (d : Document) : Except Fault Settings :=
  if d.isEmpty then .ok {}
  else match d with
    | .mapping _ =>
      match check d with
      | .ok s => .ok s
      | .error r => .error (.settings (.invalid path r))
    | _ => .error (.settings (.notMapping path))

def documentOf (path : String) (bytes : List UInt8) : Except Fault Document :=
  match Text.decodeUtf8? bytes with
  | none => .error (.raised .undecodable)
  | some cs =>
    match Yaml.read (Text.unifyLines cs) with
    | .ok d => .ok d
    | .error .malformed => .error (.settings (.unreadable path "the text is malformed"))
    | .error flaw => .error (.raised (.content flaw))

def load (f : Files) (e : Surroundings) (root : Path) (explicit : Option Path) :
    Except Fault Settings :=
  let path := fileOf e root explicit
  match f.standing e path with
  | .error r => .error (.raised r)
  | .ok none => .ok {}
  | .ok (some _) =>
    match f.read e path with
    | .ok bytes => do ofDocument path.text (← documentOf path.text bytes)
    | .error r => .error (.settings (.unreadable path.text r.message))

end SymbolHierarchy.Settings
