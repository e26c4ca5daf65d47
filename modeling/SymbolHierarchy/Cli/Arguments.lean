import SymbolHierarchy.Cli.Misuse

/-! Arguments in a scope, parted into options and the rest. An option's operand
stands behind an equals sign, behind the option's letter, or as the next
argument; letters may share one dash. Two dashes end the options. Before a
command the first other argument ends them too. -/
namespace SymbolHierarchy.Cli

structure Setting where
  switch : Switch
  operand : String := ""
  deriving Repr

structure Given where
  settings : List Setting := []
  rest : List String := []
  deriving Repr

abbrev Glance := List Setting × Option (String × Switch)

def readLetters (s : Scope) : List Char → Except Flaw Glance
  | [] => .ok ([], none)
  | c :: cs =>
    let name := String.ofList ['-', c]
    match s.short? c with
    | none => .error (.unknownOption name [])
    | some w =>
      if w.takesOperand then
        if cs.isEmpty then .ok ([], some (name, w)) else .ok ([⟨w, String.ofList cs⟩], none)
      else do
        let (more, waiting) ← readLetters s cs
        .ok (⟨w, ""⟩ :: more, waiting)

def readLong (name : String) (w : Switch) (inline : Option String) : Except Flaw Glance :=
  match w.takesOperand, inline with
  | true, some v => .ok ([⟨w, v⟩], none)
  | true, none => .ok ([], some (name, w))
  | false, some _ => .error (.needlessOperand name)
  | false, none => .ok ([⟨w, ""⟩], none)

def readOption (s : Scope) (argument : List Char) : Except Flaw Glance :=
  let name := String.ofList (argument.takeWhile (· ≠ '='))
  let inline := match argument.dropWhile (· ≠ '=') with
    | _ :: v => some (String.ofList v)
    | [] => none
  match s.long? name with
  | some w => readLong name w inline
  | none =>
    match argument with
    | '-' :: '-' :: _ =>
      .error (.unknownOption name (Text.closest name (s.switches.map Switch.long)))
    | _ => readLetters s (argument.drop 1)

def isOption : List Char → Bool
  | '-' :: _ :: _ => true
  | _ => false

def Scope.mixes : Scope → Bool
  | .program => false
  | .command _ => true

def Given.set (more : List Setting) (g : Given) : Given := { g with settings := more ++ g.settings }

def Given.ofArguments (s : Scope) : List String → Except Flaw Given
  | [] => .ok {}
  | a :: rest =>
    if a = "--" then .ok ⟨[], rest⟩
    else if isOption a.toList then
      match readOption s a.toList with
      | .error f => .error f
      | .ok (found, none) => (ofArguments s rest).map (Given.set found)
      | .ok (found, some (name, w)) =>
        match rest with
        | [] => .error (.missingOperand name)
        | v :: rest => (ofArguments s rest).map (Given.set (found ++ [⟨w, v⟩]))
    else if s.mixes then
      (ofArguments s rest).map fun g => { g with rest := a :: g.rest }
    else .ok ⟨[], a :: rest⟩

def lastOf (x : Setting) (rest : List Setting) : Setting :=
  (rest.reverse.find? fun y => y.switch.slot = x.switch.slot).getD x

/-- Each option once, where it came first, with the operand that came last. -/
def effective : List Setting → List Setting
  | [] => []
  | x :: rest => lastOf x rest :: (effective rest).filter fun y => y.switch.slot ≠ x.switch.slot

theorem lastOfSlot (x : Setting) (rest : List Setting) :
    (lastOf x rest).switch.slot = x.switch.slot := by
  unfold lastOf
  cases h : rest.reverse.find? fun y => y.switch.slot = x.switch.slot with
  | none => rfl
  | some y => simpa using List.find?_some h

theorem effectiveOnce (settings : List Setting) :
    ((effective settings).map fun y => y.switch.slot).Nodup := by
  induction settings with
  | nil => simp [effective]
  | cons x rest ih =>
    simp only [effective, List.map_cons, List.nodup_cons, lastOfSlot]
    constructor
    · simp
    · exact ih.sublist (List.filter_sublist.map _)

end SymbolHierarchy.Cli
