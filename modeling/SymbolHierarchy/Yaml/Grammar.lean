import SymbolHierarchy.Yaml.Lexer
import SymbolHierarchy.Yaml.Graph

/-! The grammar of documents over tokens. Every node has a tag; one that is not
written follows from the kind of the node or from the look of its text. A text holds
one document at most, and what follows it is read only as far as a second one would
begin. -/
namespace SymbolHierarchy.Yaml

structure Rest where
  lexer : Lexer
  handles : List (String × String)
  anchors : List (String × Nat) := []
  graph : Graph := {}

abbrev Parse := StateT Rest Scan

namespace Parse

def fail {α : Type} : Parse α := fun _ => refuse

def peek : Parse Token := do
  let r ← get
  let l ← r.lexer.settled
  set { r with lexer := l }
  return l.head

def advance : Parse Unit := modify fun r => { r with lexer := r.lexer.advance }

def accept (t : Token) : Parse Bool := do
  if (← peek) = t then
    advance
    return true
  else return false

def expect (t : Token) : Parse Unit := do
  if (← accept t) then return () else fail

def leftOut (stops : List Token) : Parse Bool := do
  return stops.contains (← peek)

def add (v : Vertex) : Parse Nat := do
  let r ← get
  set { r with graph := r.graph.add v }
  return r.graph.size

def left : Parse Nat := add .empty

def setShape (id : Nat) (s : Shape) : Parse Nat := do
  modify fun r => { r with graph := r.graph.setShape id s }
  return id

def declare (anchor : Option String) (v : Vertex) : Parse Nat := do
  match anchor with
  | none => add v
  | some a =>
    if (← get).anchors.any fun x => x.1 = a then fail
    else
      let id ← add v
      modify fun r => { r with anchors := (a, id) :: r.anchors }
      return id

def aliased (a : String) : Parse Nat := do
  match (← get).anchors.find? fun x => x.1 = a with
  | some (_, id) => return id
  | none => fail

abbrev WrittenTag := Option String × String

def anchorSign : Parse (Option String) := do
  match (← peek) with
  | .anchor a =>
    advance
    return some a
  | _ => return none

def tagSign : Parse (Option WrittenTag) := do
  match (← peek) with
  | .tag handle suffix =>
    advance
    return some (handle, suffix)
  | _ => return none

def fullTag (t : WrittenTag) : Parse String := do
  match t.1 with
  | none => return t.2
  | some h =>
    match (← get).handles.find? fun x => x.1 = h with
    | some (_, lead) => return lead ++ t.2
    | none => fail

def properties : Parse (Option String × Option String) := do
  let first ← anchorSign
  let t ← tagSign
  let anchor ← if first.isNone && t.isSome then anchorSign else pure first
  match t with
  | some t => return (anchor, some (← fullTag t))
  | none => return (anchor, none)

def chosen (t : Option String) : Option Tag :=
  match t with
  | none => none
  | some s => if s = "!" then none else some (.ofText s)

def scalarTag (t : Option String) (text : String) (plain : Bool) : Tag :=
  match chosen t with
  | some tag => tag
  | none => if plain || t.isSome then .ofLook text else .str

def leftEmpty (anchor t : Option String) : Parse Nat :=
  if anchor.isSome || t.isSome then declare anchor ⟨scalarTag t "" true, .scalar "" []⟩ else fail

mutual
/-- A node; `block` allows block collections, `loose` entries without an indent
of their own. -/
def node : Nat → Bool → Bool → Parse Nat
  | 0, _, _ => fail
  | n + 1, block, loose => do
    match (← peek) with
    | .reference a =>
      advance
      aliased a
    | _ =>
      let (anchor, t) ← properties
      let items := declare anchor ⟨(chosen t).getD .seq, .sequence []⟩
      let entries := declare anchor ⟨(chosen t).getD .map, .mapping []⟩
      let next ← peek
      if loose && next = .blockEntry then
        let id ← items
        setShape id (.sequence (← looseItems n))
      else match next with
        | .scalar text plain points =>
          advance
          declare anchor ⟨scalarTag t text plain, .scalar text points⟩
        | .flowSequenceStart =>
          let id ← items
          advance
          setShape id (.sequence (← flowItems n true))
        | .flowMappingStart =>
          let id ← entries
          advance
          setShape id (.mapping (← flowEntries n true))
        | .blockSequenceStart =>
          if block then
            let id ← items
            advance
            setShape id (.sequence (← blockItems n))
          else leftEmpty anchor t
        | .blockMappingStart =>
          if block then
            let id ← entries
            advance
            setShape id (.mapping (← blockEntries n))
          else leftEmpty anchor t
        | _ => leftEmpty anchor t
def blockItems : Nat → Parse (List Nat)
  | 0 => fail
  | n + 1 => do
    if (← accept .blockEntry) then
      let item ← if (← leftOut [.blockEntry, .blockEnd]) then left else node n true false
      return item :: (← blockItems n)
    else
      expect .blockEnd
      return []
def looseItems : Nat → Parse (List Nat)
  | 0 => fail
  | n + 1 => do
    if (← accept .blockEntry) then
      let item ← if (← leftOut [.blockEntry, .key, .value, .blockEnd]) then left
        else node n true false
      return item :: (← looseItems n)
    else return []
def blockPart : Nat → Parse Nat
  | 0 => fail
  | n + 1 => do
    if (← leftOut [.key, .value, .blockEnd]) then left else node n true true
def blockEntries : Nat → Parse (List (Nat × Nat))
  | 0 => fail
  | n + 1 => do
    if (← accept .key) then
      let k ← blockPart n
      let v ← if (← accept .value) then blockPart n else left
      return (k, v) :: (← blockEntries n)
    else
      expect .blockEnd
      return []
def flowPart : Nat → List Token → Parse Nat
  | 0, _ => fail
  | n + 1, stops => do
    if (← leftOut stops) then left else node n false false
def flowPair : Nat → Token → Parse (Nat × Nat)
  | 0, _ => fail
  | n + 1, close => do
    let k ← flowPart n [.value, .flowEntry, close]
    let v ← if (← accept .value) then flowPart n [.flowEntry, close] else left
    return (k, v)
def flowItems : Nat → Bool → Parse (List Nat)
  | 0, _ => fail
  | n + 1, first => do
    if (← accept .flowSequenceEnd) then return []
    else
      if !first then expect .flowEntry
      if (← accept .key) then
        let item ← add ⟨.map, .mapping [← flowPair n .flowSequenceEnd]⟩
        return item :: (← flowItems n false)
      else if (← accept .flowSequenceEnd) then return []
      else
        let item ← node n false false
        return item :: (← flowItems n false)
def flowEntries : Nat → Bool → Parse (List (Nat × Nat))
  | 0, _ => fail
  | n + 1, first => do
    if (← accept .flowMappingEnd) then return []
    else
      if !first then expect .flowEntry
      if (← accept .key) then
        let entry ← flowPair n .flowMappingEnd
        return entry :: (← flowEntries n false)
      else if (← accept .flowMappingEnd) then return []
      else
        let k ← node n false false
        return (k, ← left) :: (← flowEntries n false)
end

def standardHandles : List (String × String) := [("!", "!"), ("!!", Tag.standard)]

def directives : Nat → Bool → List (String × String) → Parse (List (String × String))
  | 0, _, _ => fail
  | n + 1, versioned, handles => do
    match (← peek) with
    | .directive d =>
      advance
      match d with
      | .version major _ =>
        if versioned || major ≠ 1 then fail else directives n true handles
      | .tag handle lead =>
        if handles.any fun h => h.1 = handle then fail
        else directives n versioned ((handle, lead) :: handles)
      | .other => directives n versioned handles
    | _ => return handles

def skipEnds : Nat → Parse Unit
  | 0 => return ()
  | n + 1 => do
    if (← accept .documentEnd) then skipEnds n else return ()

def isDirective : Token → Bool
  | .directive _ => true
  | _ => false

def content (fuel : Nat) : Parse Nat := do
  let next ← peek
  if isDirective next || [.documentStart, .documentEnd, .streamEnd].contains next then left
  else node fuel true false

/-- Nothing may follow but the end; directives of a second document are held
against their rules before it is refused. -/
def onlyEnd (fuel : Nat) : Parse Unit := do
  skipEnds fuel
  if (← peek) = .streamEnd then return ()
  else
    let _ ← directives fuel false []
    let _ ← peek
    fail

def document (fuel : Nat) : Parse (Option Nat) := do
  let first ← peek
  if first = .streamEnd then return none
  let root ←
    if isDirective first || first = .documentStart then do
      let handles ← directives fuel false []
      modify fun r => { r with handles := handles ++ standardHandles }
      expect .documentStart
      content fuel
    else node fuel true false
  onlyEnd fuel
  return some root

end Parse

/-- The graph of the one document of a text, and its root if it has any. Every call
takes a token or goes down one of four steps to the call that does, and a character
makes up four tokens at most. -/
def Graph.ofChars (cs : List Char) : Scan (Graph × Option Nat) := do
  let lexer ← Lexer.start cs
  let (root, r) ← (Parse.document (16 * (cs.length + 2))).run
    ⟨lexer, Parse.standardHandles, [], {}⟩
  return (r.graph, root)

end SymbolHierarchy.Yaml
