import SymbolHierarchy.Yaml.Property

/-! Block text: lines under an indent, kept or folded. Loops are bounded by the
length of the text that is left. -/
namespace SymbolHierarchy.Yaml

structure Header where
  keep : Option Bool
  increment : Option Nat

def sign (c : Cursor) : Option Bool × Cursor :=
  if c.peek = '+' then (some true, c.next)
  else if c.peek = '-' then (some false, c.next)
  else (none, c)

def incrementDigit (c : Cursor) : Scan (Option Nat × Cursor) :=
  if c.peek.isDigit then
    if c.peek = '0' then refuse else .ok (some (c.peek.toNat - 48), c.next)
  else .ok (none, c)

def header (c : Cursor) : Scan (Header × Cursor) := do
  let (h, c) ← match sign c with
    | (some b, c) => do
      let (i, c) ← incrementDigit c
      .ok (Header.mk (some b) i, c)
    | (none, c) => do
      let (i, c) ← incrementDigit c
      match i with
      | none => .ok (Header.mk none none, c)
      | some _ =>
        let (b, c) := sign c
        .ok (Header.mk b i, c)
  if isSpaceOrEnd c.peek then .ok (h, c) else refuse

def skipIndent : Nat → Nat → Cursor → Cursor
  | 0, _, c => c
  | n + 1, column, c =>
    if c.column < column && c.peek = ' ' then skipIndent n column c.next else c

def blankLines (column : Nat) : Nat → Cursor → List Char × Cursor
  | 0, c => ([], c)
  | n + 1, c =>
    let c := skipIndent (c.rest.length) column c
    if isBreak c.peek then
      let (b, c) := c.lineBreak
      let (bs, c) := blankLines column n c
      (b ++ bs, c)
    else ([], c)

def firstIndent : Nat → Nat → Cursor → List Char × Nat × Cursor
  | 0, most, c => ([], most, c)
  | n + 1, most, c =>
    if c.peek = ' ' then firstIndent n (max most c.next.column) c.next
    else if isBreak c.peek then
      let (b, c) := c.lineBreak
      let (bs, most, c) := firstIndent n most c
      (b ++ bs, most, c)
    else ([], most, c)

/-- The lines of a block: the text so far, the break that ended its last line,
and the empty lines behind it. -/
def blockLines (folded : Bool) (column : Nat) :
    Nat → List Char → List Char → Cursor → List Char × List Char × List Char × Cursor
  | 0, text, blanks, c => (text, [], blanks, c)
  | n + 1, text, blanks, c =>
    if c.column = column && c.peek ≠ endMark then
      let plain := c.peek ≠ ' ' && c.peek ≠ '\t'
      let (line, c) := c.span (!isBreakOrEnd ·)
      let (ending, c) := c.lineBreak
      let text := text ++ blanks ++ line
      let (after, c) := blankLines column (c.rest.length + 1) c
      if c.column = column && c.peek ≠ endMark then
        let joined :=
          if folded && ending = ['\n'] && plain && c.peek ≠ ' ' && c.peek ≠ '\t' then
            if after.isEmpty then [' '] else []
          else ending
        blockLines folded column n (text ++ joined) after c
      else (text, ending, after, c)
    else (text, [], blanks, c)

def blockScalar (folded : Bool) (indent : Int) (c : Cursor) : Scan (Token × Cursor) := do
  let (h, c) ← header c.next
  let c ← restOfLine c
  let least := (max 1 (indent + 1)).toNat
  let (blanks, column, c) := match h.increment with
    | some i =>
      let column := least + i - 1
      let (bs, c) := blankLines column (c.rest.length + 1) c
      (bs, column, c)
    | none =>
      let (bs, most, c) := firstIndent (c.rest.length + 1) 0 c
      (bs, max least most, c)
  let (text, ending, after, c) := blockLines folded column (c.rest.length + 1) [] blanks c
  let tail := match h.keep with
    | some false => []
    | some true => ending ++ after
    | none => ending
  .ok (.scalar (String.ofList (text ++ tail)) false [], c)

end SymbolHierarchy.Yaml
