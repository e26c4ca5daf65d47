import SymbolHierarchy.Yaml.Property

/-! Quoted text, as code points. A single line break becomes a space; double quotes also
know escapes. An escape may name a surrogate, which is no character. -/
namespace SymbolHierarchy.Yaml

def quotedBreaks : Nat → Cursor → Scan (List Char × Cursor)
  | 0, _ => refuse
  | n + 1, c =>
    if c.atMarker then refuse
    else
      let c := (c.span fun ch => ch = ' ' || ch = '\t').2
      if isBreak c.peek then do
        let (b, c) := c.lineBreak
        let (bs, c) ← quotedBreaks n c
        .ok (b ++ bs, c)
      else .ok ([], c)

def quotedSpaces (c : Cursor) : Scan (List Char × Cursor) :=
  let (blanks, c) := c.span fun ch => ch = ' ' || ch = '\t'
  if c.peek = endMark then refuse
  else if isBreak c.peek then do
    let (b, c) := c.lineBreak
    let (bs, c) ← quotedBreaks (c.rest.length + 1) c
    let joined := if b ≠ ['\n'] then b else if bs.isEmpty then [' '] else []
    .ok (joined ++ bs, c)
  else .ok (blanks, c)

def namedEscape : Char → Option Char
  | '0' => some '\x00'
  | 'a' => some '\x07'
  | 'b' => some '\x08'
  | 't' => some '\t'
  | '\t' => some '\t'
  | 'n' => some '\n'
  | 'v' => some '\x0b'
  | 'f' => some '\x0c'
  | 'r' => some '\r'
  | 'e' => some '\x1b'
  | ' ' => some ' '
  | '"' => some '"'
  | '\\' => some '\\'
  | '/' => some '/'
  | 'N' => some '\x85'
  | '_' => some '\xa0'
  | 'L' => some '\u2028'
  | 'P' => some '\u2029'
  | _ => none

def numberedEscape : Char → Option Nat
  | 'x' => some 2
  | 'u' => some 4
  | 'U' => some 8
  | _ => none

def codePoint (v : Nat) : Scan Nat :=
  if v > 0x7FFFFFFF then .error .hugeEscape
  else if v > 0x10FFFF then .error .codePoint
  else .ok v

def pointsOf (cs : List Char) : List Nat := cs.map Char.toNat

def quotedEscape (c : Cursor) : Scan (List Nat × Cursor) :=
  match namedEscape c.peek with
  | some e => .ok ([e.toNat], c.next)
  | none =>
    match numberedEscape c.peek with
    | some n => do
      let (v, c) ← hexNumber n 0 c.next
      .ok ([← codePoint v], c)
    | none =>
      if isBreak c.peek then do
        let (bs, c) ← quotedBreaks (c.rest.length + 1) c.lineBreak.2
        .ok (pointsOf bs, c)
      else refuse

def endsRun (c : Char) : Bool :=
  c = '\'' || c = '"' || c = '\\' || isGap c

def quotedStep (double : Bool) (c : Cursor) : Scan (Option (List Nat) × Cursor) :=
  let ch := c.peek
  let closing := if double then '"' else '\''
  if ch = closing then
    if !double && c.peekAt 1 = '\'' then .ok (some [ch.toNat], c.skip 2) else .ok (none, c.next)
  else if double && ch = '\\' then do
    let (ps, c) ← quotedEscape c.next
    .ok (some ps, c)
  else if ch = '"' || ch = '\'' || ch = '\\' then .ok (some [ch.toNat], c.next)
  else do
    let (cs, c) ← quotedSpaces c
    .ok (some (pointsOf cs), c)

def quotedText (double : Bool) : Nat → Cursor → Scan (List Nat × Cursor)
  | 0, _ => refuse
  | n + 1, c => do
    let (run, c) := c.span (!endsRun ·)
    match ← quotedStep double c with
    | (none, c) => .ok (pointsOf run, c)
    | (some ps, c) =>
      let (rest, c) ← quotedText double n c
      .ok (pointsOf run ++ ps ++ rest, c)

def quotedScalar (double : Bool) (c : Cursor) : Scan (Token × Cursor) := do
  let (ps, c) ← quotedText double (c.rest.length + 1) c.next
  .ok (.scalar (Text.ofPoints ps) false (if ps.all (·.isValidChar) then [] else ps), c)

end SymbolHierarchy.Yaml
