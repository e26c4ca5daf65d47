import SymbolHierarchy.Yaml.Flaw
import SymbolHierarchy.Yaml.Token
import SymbolHierarchy.Number.Numeral
import SymbolHierarchy.Text.Utf8

/-! What stands before a node or a document: anchors, tags and directives. Each
reader gives what it read and the place behind it. Loops are bounded by the
length of the text that is left. -/
namespace SymbolHierarchy.Yaml

def hexOf (c : Char) : Option Nat :=
  if c.isDigit then some (c.toNat - 48)
  else if 'a' ≤ c ∧ c ≤ 'f' then some (c.toNat - 87)
  else if 'A' ≤ c ∧ c ≤ 'F' then some (c.toNat - 55)
  else none

def hexNumber : Nat → Nat → Cursor → Scan (Nat × Cursor)
  | 0, v, c => .ok (v, c)
  | n + 1, v, c => do
    let d ← demand (hexOf c.peek)
    hexNumber n (v * 16 + d) c.next

def decimal (c : Cursor) : Scan (Nat × Cursor) :=
  let (ds, c) := c.span Char.isDigit
  if ds.isEmpty then refuse
  else if Numeral.digitLimit < ds.length then .error (.tooManyDigits ds.length)
  else .ok (ds.foldl (fun n d => n * 10 + (d.toNat - 48)) 0, c)

def version (c : Cursor) : Scan (Directive × Cursor) := do
  let (major, c) ← decimal c.skipSpaces
  if c.peek ≠ '.' then refuse
  let (minor, c) ← decimal c.next
  if isSpaceOrEnd c.peek then .ok (.version major minor, c) else refuse

def tagHandle (c : Cursor) : Scan (String × Cursor) :=
  if c.peek ≠ '!' then refuse
  else if c.peekAt 1 = ' ' then .ok ("!", c.next)
  else
    let (name, d) := c.next.span isWord
    if d.peek = '!' then .ok (String.ofList ('!' :: name ++ ['!']), d.next) else refuse

def isTagChar (c : Char) : Bool :=
  c.isAlphanum || "-;/?:@&=+$,_.!~*'()[]%".toList.contains c

def tagEscapes : Nat → Cursor → Scan (List UInt8 × Cursor)
  | 0, c => .ok ([], c)
  | n + 1, c =>
    if c.peek = '%' then do
      let (b, c) ← hexNumber 2 0 c.next
      let (bs, c) ← tagEscapes n c
      .ok (UInt8.ofNat b :: bs, c)
    else .ok ([], c)

def tagChars : Nat → Cursor → Scan (List Char × Cursor)
  | 0, c => .ok ([], c)
  | n + 1, c =>
    if c.peek = '%' then do
      let (bs, c) ← tagEscapes (n + 1) c
      let cs ← demand (Text.decodeUtf8? bs)
      let (more, c) ← tagChars n c
      .ok (cs ++ more, c)
    else if isTagChar c.peek then do
      let (more, d) ← tagChars n c.next
      .ok (c.peek :: more, d)
    else .ok ([], c)

def tagUri (c : Cursor) : Scan (String × Cursor) := do
  let (cs, c) ← tagChars (c.rest.length + 1) c
  if cs.isEmpty then refuse else .ok (String.ofList cs, c)

def tagDirective (c : Cursor) : Scan (Directive × Cursor) := do
  let (handle, c) ← tagHandle c.skipSpaces
  if c.peek ≠ ' ' then refuse
  let (lead, c) ← tagUri c.skipSpaces
  if isSpaceOrEnd c.peek then .ok (.tag handle lead, c) else refuse

def restOfLine (c : Cursor) : Scan Cursor :=
  let c := c.skipSpaces.skipComment
  if isBreakOrEnd c.peek then .ok c.lineBreak.2 else refuse

def directive (c : Cursor) : Scan (Directive × Cursor) := do
  let (name, c) := c.next.span isWord
  if name.isEmpty || !isSpaceOrEnd c.peek then refuse
  let (d, c) ← match String.ofList name with
    | "YAML" => version c
    | "TAG" => tagDirective c
    | _ => .ok (.other, (c.span (!isBreakOrEnd ·)).2)
  let c ← restOfLine c
  .ok (d, c)

def name (c : Cursor) : Scan (String × Cursor) :=
  let (cs, c) := c.next.span isWord
  if cs.isEmpty then refuse
  else if isGap c.peek || "?:,]\x7d%@`".toList.contains c.peek then .ok (String.ofList cs, c)
  else refuse

def tag (c : Cursor) : Scan (Token × Cursor) := do
  let ch := c.peekAt 1
  let (handle, suffix, c) ←
    if ch = '<' then do
      let (suffix, c) ← tagUri (c.skip 2)
      if c.peek ≠ '>' then refuse
      .ok ((none : Option String), suffix, c.next)
    else if isGap ch then .ok (none, "!", c.next)
    else do
      let word := c.rest.drop 1 |>.takeWhile (!isSpaceOrEnd ·)
      let (handle, c) ← if word.contains '!' then tagHandle c else .ok ("!", c.next)
      let (suffix, c) ← tagUri c
      .ok (some handle, suffix, c)
  if isSpaceOrEnd c.peek then .ok (.tag handle suffix, c) else refuse

end SymbolHierarchy.Yaml
