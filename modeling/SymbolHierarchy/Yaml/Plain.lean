import SymbolHierarchy.Yaml.Token

/-! Plain text: it ends at a mapping sign, at a comment, and outside flow
collections before a line that stands too far left. -/
namespace SymbolHierarchy.Yaml

def plainRun (flow : Bool) : List Char → List Char
  | [] => []
  | ch :: rest =>
    let after := (rest.head?).getD endMark
    if isGap ch || (ch = ':' && (isGap after || (flow && ",[]\x7b\x7d".toList.contains after))) ||
        (flow && ",?[]\x7b\x7d".toList.contains ch) then []
    else ch :: plainRun flow rest

def plainBreaks : Nat → Cursor → Option (List Char × Cursor)
  | 0, _ => none
  | n + 1, c =>
    if c.peek = ' ' then plainBreaks n c.next
    else if isBreak c.peek then
      let (b, c) := c.lineBreak
      if c.atMarker then none
      else do
        let (bs, c) ← plainBreaks n c
        some (b ++ bs, c)
    else some ([], c)

def plainSpaces (c : Cursor) : List Char × Bool × Cursor :=
  let (blanks, c) := c.span (· = ' ')
  if isBreak c.peek then
    let (b, c) := c.lineBreak
    if c.atMarker then ([], true, c)
    else match plainBreaks (c.rest.length + 1) c with
      | none => ([], true, skipToMarker (c.rest.length + 1) c)
      | some (bs, c) =>
        ((if b ≠ ['\n'] then b else if bs.isEmpty then [' '] else []) ++ bs, true, c)
  else (blanks, false, c)
where
  skipToMarker : Nat → Cursor → Cursor
    | 0, c => c
    | n + 1, c => if c.column = 0 && c.atMarker then c else skipToMarker n c.next

/-- Plain text, and whether a break stood at its end. `indent` is the least
column of its later lines outside flow collections. -/
def plainText (flow : Bool) (indent : Int) :
    Nat → List Char → Bool → Cursor → List Char × Bool × Cursor
  | 0, _, broken, c => ([], broken, c)
  | n + 1, spaces, broken, c =>
    if c.peek = '#' then ([], broken, c)
    else
      let run := plainRun flow c.rest
      if run.isEmpty then ([], broken, c)
      else
        let (gap, broken, c) := plainSpaces (c.skip run.length)
        if gap.isEmpty || c.peek = '#' || (!flow && (c.column : Int) < indent) then
          (spaces ++ run, broken, c)
        else
          let (more, broken, c) := plainText flow indent n gap broken c
          (spaces ++ run ++ more, broken, c)

end SymbolHierarchy.Yaml
