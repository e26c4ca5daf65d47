import SymbolHierarchy.Yaml.Block
import SymbolHierarchy.Yaml.Quoted
import SymbolHierarchy.Yaml.Plain

/-! The tokens of a text, read one after the other. Indents open and close block
collections. A mapping key needs no sign of its own: where a value sign follows on
the line, the key token is put in front of the token that turned out to be the key.
A token is given out only once it can no longer turn out to be one. -/
namespace SymbolHierarchy.Yaml

structure Candidate where
  slot : Nat
  required : Bool
  index : Nat
  line : Nat
  column : Nat

structure Lexer where
  cursor : Cursor
  queue : List Token := []
  taken : Nat := 0
  done : Bool := false
  flow : Nat := 0
  indent : Int := -1
  outer : List Int := []
  allowKey : Bool := true
  candidates : List (Nat × Candidate) := []

namespace Lexer

def inFlow (l : Lexer) : Bool := l.flow ≠ 0

def push (l : Lexer) (t : Token) : Lexer := { l with queue := l.queue ++ [t] }

def count (l : Lexer) : Nat := l.taken + l.queue.length

def insert (l : Lexer) (slot : Nat) (t : Token) : Lexer :=
  let (before, after) := l.queue.splitAt (slot - l.taken)
  { l with queue := before ++ t :: after }

def dropStale (l : Lexer) : Scan Lexer :=
  let stale (k : Candidate) : Bool :=
    k.line != l.cursor.line || l.cursor.index - k.index > 1024
  if l.candidates.any fun k => stale k.2 && k.2.required then refuse
  else .ok { l with candidates := l.candidates.filter fun k => !stale k.2 }

def forget (l : Lexer) : Scan Lexer :=
  if l.candidates.any fun k => k.1 = l.flow && k.2.required then refuse
  else .ok { l with candidates := l.candidates.filter fun k => k.1 != l.flow }

def remember (l : Lexer) : Scan Lexer :=
  if l.allowKey then do
    let required := !l.inFlow && l.indent = l.cursor.column
    let k := ⟨l.count, required, l.cursor.index, l.cursor.line, l.cursor.column⟩
    let l ← l.forget
    .ok { l with candidates := (l.flow, k) :: l.candidates }
  else .ok l

def unwindTo (column : Int) : List Int → Lexer → Lexer
  | [], l => l
  | i :: outer, l =>
    if l.indent > column then
      unwindTo column outer { l.push .blockEnd with indent := i, outer := outer }
    else l

def unwind (l : Lexer) (column : Int) : Lexer :=
  if l.inFlow then l else unwindTo column l.outer l

def deepen (l : Lexer) (column : Nat) (slot : Nat) (t : Token) : Lexer :=
  if l.indent < column then
    { l.insert slot t with outer := l.indent :: l.outer, indent := column }
  else l

def toToken : Nat → Lexer → Lexer
  | 0, l => l
  | n + 1, l =>
    let c := l.cursor.skipSpaces.skipComment
    if isBreak c.peek then
      toToken n { l with cursor := c.lineBreak.2, allowKey := l.allowKey || !l.inFlow }
    else { l with cursor := c }

def take (l : Lexer) (r : Scan (Token × Cursor)) : Scan Lexer := do
  let (t, c) ← r
  .ok { l.push t with cursor := c }

def takeChars (l : Lexer) (n : Nat) (t : Token) : Lexer :=
  { l.push t with cursor := l.cursor.skip n }

def marker (l : Lexer) (t : Token) : Scan Lexer := do
  let l ← (l.unwind (-1)).forget
  .ok ({ l with allowKey := false }.takeChars 3 t)

def directiveLine (l : Lexer) : Scan Lexer := do
  let l ← (l.unwind (-1)).forget
  { l with allowKey := false }.take do
    let (d, c) ← directive l.cursor
    .ok (.directive d, c)

def flowStart (l : Lexer) (t : Token) : Scan Lexer := do
  let l ← l.remember
  .ok ({ l with flow := l.flow + 1, allowKey := true }.takeChars 1 t)

def flowEnd (l : Lexer) (t : Token) : Scan Lexer := do
  let l ← l.forget
  if l.inFlow then .ok ({ l with flow := l.flow - 1, allowKey := false }.takeChars 1 t) else refuse

def flowEntry (l : Lexer) : Scan Lexer := do
  let l ← { l with allowKey := true }.forget
  .ok (l.takeChars 1 .flowEntry)

def openHere (l : Lexer) (t : Token) : Scan Lexer :=
  if l.inFlow then .ok l
  else if l.allowKey then .ok (l.deepen l.cursor.column l.count t)
  else refuse

def blockEntry (l : Lexer) : Scan Lexer := do
  let l ← l.openHere .blockSequenceStart
  let l ← { l with allowKey := true }.forget
  .ok (l.takeChars 1 .blockEntry)

def key (l : Lexer) : Scan Lexer := do
  let l ← l.openHere .blockMappingStart
  let l ← { l with allowKey := !l.inFlow }.forget
  .ok (l.takeChars 1 .key)

def value (l : Lexer) : Scan Lexer :=
  match l.candidates.find? fun k => k.1 = l.flow with
  | some (_, k) =>
    let l := { l.insert k.slot .key with
      candidates := l.candidates.filter fun k => k.1 != l.flow
      allowKey := false }
    let l := if l.inFlow then l else l.deepen k.column k.slot .blockMappingStart
    .ok (l.takeChars 1 .value)
  | none => do
    let l ← l.openHere .blockMappingStart
    let l ← { l with allowKey := !l.inFlow }.forget
    .ok (l.takeChars 1 .value)

def nodePart (l : Lexer) (read : Cursor → Scan (Token × Cursor)) : Scan Lexer := do
  let l ← l.remember
  { l with allowKey := false }.take (read l.cursor)

def named (t : String → Token) (c : Cursor) : Scan (Token × Cursor) := do
  let (s, c) ← name c
  .ok (t s, c)

def blockText (l : Lexer) (folded : Bool) : Scan Lexer := do
  let l ← { l with allowKey := true }.forget
  l.take (blockScalar folded l.indent l.cursor)

def plain (l : Lexer) : Scan Lexer := do
  let l ← l.remember
  let (text, broken, c) :=
    plainText l.inFlow (l.indent + 1) (l.cursor.rest.length + 1) [] false l.cursor
  .ok { l.push (.scalar (String.ofList text) true []) with cursor := c, allowKey := broken }

def beginsPlain (l : Lexer) : Bool :=
  let ch := l.cursor.peek
  let after := l.cursor.peekAt 1
  !(isGap ch || "-?:,[]\x7b\x7d#&*!|>'\"%@`".toList.contains ch) ||
    (!isGap after && (ch = '-' || (!l.inFlow && (ch = '?' || ch = ':'))))

def token (l : Lexer) : Scan Lexer :=
  let c := l.cursor
  let loose := isGap (c.peekAt 1)
  match c.peek with
  | '[' => l.flowStart .flowSequenceStart
  | '\x7b' => l.flowStart .flowMappingStart
  | ']' => l.flowEnd .flowSequenceEnd
  | '\x7d' => l.flowEnd .flowMappingEnd
  | ',' => l.flowEntry
  | '*' => l.nodePart (named .reference)
  | '&' => l.nodePart (named .anchor)
  | '!' => l.nodePart tag
  | '\'' => l.nodePart (quotedScalar false)
  | '"' => l.nodePart (quotedScalar true)
  | ch =>
    if ch = '%' && c.column = 0 then l.directiveLine
    else if c.column = 0 && c.atMarker then
      l.marker (if ch = '-' then .documentStart else .documentEnd)
    else if ch = '-' && loose then l.blockEntry
    else if ch = '?' && (l.inFlow || loose) then l.key
    else if ch = ':' && (l.inFlow || loose) then l.value
    else if ch = '|' && !l.inFlow then l.blockText false
    else if ch = '>' && !l.inFlow then l.blockText true
    else if l.beginsPlain then l.plain
    else refuse

def finish (l : Lexer) : Scan Lexer := do
  let l ← (l.unwind (-1)).forget
  .ok { l.push .streamEnd with candidates := [], done := true }

def fetch (l : Lexer) : Scan Lexer := do
  let l ← (l.toToken (l.cursor.rest.length + 1)).dropStale
  let l := l.unwind l.cursor.column
  if l.cursor.rest.isEmpty then l.finish else l.token

def undecided (l : Lexer) : Bool := l.candidates.any fun k => k.2.slot = l.taken

def ready : Nat → Lexer → Scan Lexer
  | 0, l => .ok l
  | n + 1, l =>
    if l.done then .ok l
    else if l.queue.isEmpty then do
      let l ← l.fetch
      ready n l
    else do
      let l ← l.dropStale
      if l.undecided then
        let l ← l.fetch
        ready n l
      else .ok l

/-- The lexer with its first token at hand. Every step takes a character, so the
length of the text bounds their number. -/
def settled (l : Lexer) : Scan Lexer := ready (l.cursor.rest.length + 2) l

def head (l : Lexer) : Token := l.queue.head?.getD .streamEnd

def advance (l : Lexer) : Lexer := { l with queue := l.queue.drop 1, taken := l.taken + 1 }

def start (cs : List Char) : Scan Lexer :=
  if cs.all isAllowed then
    let c : Cursor := ⟨cs, 0, 0, 0⟩
    .ok ⟨if cs.head? = some '\ufeff' then c.next else c, [], 0, false, 0, -1, [], true, []⟩
  else refuse

end Lexer
end SymbolHierarchy.Yaml
