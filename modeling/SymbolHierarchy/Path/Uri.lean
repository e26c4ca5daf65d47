import SymbolHierarchy.Path.Basic
import SymbolHierarchy.Uri.Percent
import SymbolHierarchy.Fault

/-! The URI of a file path: the path is made absolute, its home component
expanded, and every component percent-coded. -/
namespace SymbolHierarchy

structure Surroundings where
  directory : Path
  environment : List (String × String)
  homes : List (String × String) := [("root", "/root")]
  deriving Repr

namespace Surroundings

def valueOf? (e : Surroundings) (name : String) : Option String :=
  (e.environment.find? fun v => v.1 = name).map Prod.snd

def homeOf (e : Surroundings) (user : List Char) : Option (List Char) :=
  let found :=
    if user.isEmpty then e.valueOf? "HOME" |>.orElse fun _ => some "/root"
    else (e.homes.find? fun h => h.1 = String.ofList user).map Prod.snd
  found.map fun h =>
    let bare := (h.toList.reverse.dropWhile (· = '/')).reverse
    if bare.isEmpty then ['/'] else bare

/-- Replaces a leading home component of a relative path. A home that opens so itself
is none. -/
def expandHome (e : Surroundings) (p : Path) : Except Raised Path :=
  match p.root, p.parts with
  | [], ('~' :: user) :: rest =>
    if user.contains '\x00' then .error .nulByte
    else match e.homeOf user with
    | some ('~' :: _) | none => .error .noHome
    | some home =>
      let h := Path.ofChars home
      .ok ⟨h.root, h.parts ++ rest⟩
  | _, _ => .ok p

def absolute (e : Surroundings) (p : Path) : Path := e.directory.join p

end Surroundings

def Path.uri (p : Path) : String :=
  "file://" ++ String.ofList (Uri.percentEncode p.chars)

def Path.uriOf (e : Surroundings) (path : String) : Except Raised String := do
  let p ← e.expandHome (Path.ofString path)
  .ok (e.absolute p).uri

end SymbolHierarchy
