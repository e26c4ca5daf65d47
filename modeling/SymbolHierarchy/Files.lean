import SymbolHierarchy.Path.Uri

/-! The files that a program finds. A path is looked up step by step from the
root: every component but the last must be a directory, and double dots lead
back up. There are no links. Components and paths have a greatest length, and none
holds the NUL character. -/
namespace SymbolHierarchy

inductive Entry
  | file (bytes : List UInt8)
  | directory
  deriving DecidableEq, Repr

inductive Absence
  | noEntry
  | notDirectory
  | tooLong
  | nul
  deriving DecidableEq, Repr

def Text.byteCount (cs : List Char) : Nat := (Text.encodeUtf8 cs).length

def nameLimit : Nat := 255

def pathLimit : Nat := 4095

def holdsNul (cs : List Char) : Bool := cs.contains '\x00'

structure Files where
  entries : List (List (List Char) × Entry) := []
  deriving Repr

namespace Files

def entry? (f : Files) (parts : List (List Char)) : Option Entry :=
  match f.entries.find? fun e => e.1 = parts with
  | some (_, e) => some e
  | none =>
    if parts.isEmpty || f.entries.any fun e => parts.isPrefixOf e.1 then some .directory else none

def walk (f : Files) (here : List (List Char)) : List (List Char) → Except Absence Entry
  | [] => match f.entry? here with
    | some e => .ok e
    | none => .error .noEntry
  | c :: rest =>
    match f.entry? here with
    | some .directory =>
      if nameLimit < Text.byteCount c then .error .tooLong
      else walk f (if c = ['.', '.'] then here.dropLast else here ++ [c]) rest
    | some (.file _) => .error .notDirectory
    | none => .error .noEntry

def find (f : Files) (e : Surroundings) (p : Path) : Except Absence Entry :=
  if holdsNul p.chars then .error .nul
  else if pathLimit < Text.byteCount p.chars then .error .tooLong
  else f.walk [] (e.absolute p).parts

def standing (f : Files) (e : Surroundings) (p : Path) : Except Raised (Option Entry) :=
  match f.find e p with
  | .ok x => .ok (some x)
  | .error .tooLong => .error (.nameTooLong p.text)
  | .error _ => .ok none

def endsInDirectory (name : String) : Bool :=
  [some [], some ['.']].contains (Text.pieces '/' name.toList).getLast?

def named? (f : Files) (e : Surroundings) (name : String) : Option Entry :=
  if name.isEmpty || pathLimit < name.utf8ByteSize then none
  else match f.find e (Path.ofString name) with
    | .ok .directory => some .directory
    | .ok (.file bytes) => if endsInDirectory name then none else some (.file bytes)
    | .error _ => none

def read (f : Files) (e : Surroundings) (p : Path) : Except Raised (List UInt8) :=
  match f.find e p with
  | .ok (.file bytes) => .ok bytes
  | .ok .directory => .error (.isDirectory p.text)
  | .error .noEntry => .error (.noSuchFile p.text)
  | .error .notDirectory => .error (.notDirectory p.text)
  | .error .tooLong => .error (.nameTooLong p.text)
  | .error .nul => .error .nulByte

end Files

/-- Components with the double dots carried out; above the root is the root. -/
def Path.lexical (parts : List (List Char)) : List (List Char) :=
  parts.foldl (fun done c => if c = ['.', '.'] then done.dropLast else done ++ [c]) []

def Surroundings.resolve (e : Surroundings) (p : Path) : Except Raised Path :=
  let a := e.absolute p
  if holdsNul p.chars then .error .nulByte else .ok { a with parts := Path.lexical a.parts }

def Text.unifyLines : List Char → List Char
  | [] => []
  | '\r' :: rest => '\n' :: match rest with
    | '\n' :: more => unifyLines more
    | more => unifyLines more
  | c :: rest => c :: unifyLines rest

def Files.argument (f : Files) (e : Surroundings) (name : String) : Except Raised Path := do
  let p ← e.resolve (← e.expandHome (Path.ofString name))
  match ← f.standing e p with
  | some (.file _) => .ok p
  | _ => .error (.badArgument (name ++ " is not a file"))

end SymbolHierarchy
