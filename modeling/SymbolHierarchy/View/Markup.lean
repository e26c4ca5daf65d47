import SymbolHierarchy.View.Item
import SymbolHierarchy.Text.Blank
import SymbolHierarchy.Text.Sign

/-! Style markup for terminals. A tag is a bracketed word that opens with a
small letter, `#`, `/` or `@`. Escaping puts a backslash before what would read
as a tag, after doubling the backslashes that stand there. -/
namespace SymbolHierarchy.Markup

def opensTag (c : Char) : Bool :=
  ('a' ≤ c && c ≤ 'z') || c = '#' || c = '/' || c = '@'

def tagBody : List Char → Option (List Char × List Char)
  | [] => none
  | c :: rest =>
    if c = ']' then some ([], rest)
    else if c = '[' then none
    else (tagBody rest).map fun (body, rest) => (c :: body, rest)

def tag? : List Char → Option (List Char × List Char)
  | '[' :: c :: rest =>
    if opensTag c then (tagBody rest).map fun (body, rest) => (c :: body, rest) else none
  | _ => none

/-- Doubles the backslashes before each tag and adds one. `slashes` of them have
been read. -/
def escapeFrom (slashes : Nat) : List Char → List Char
  | [] => List.replicate slashes '\\'
  | c :: rest =>
    if c = '\\' then escapeFrom (slashes + 1) rest
    else if (tag? (c :: rest)).isSome then
      List.replicate (2 * slashes + 1) '\\' ++ c :: escapeFrom 0 rest
    else List.replicate slashes '\\' ++ c :: escapeFrom 0 rest

def escape (cs : List Char) : List Char :=
  let out := escapeFrom 0 cs
  match out.reverse with
  | '\\' :: '\\' :: _ => out
  | '\\' :: _ => out ++ ['\\']
  | _ => out

inductive Piece
  | plain (text : List Char)
  | tag (position : Nat) (body : List Char)

def unescape : List Char → List Char
  | '\\' :: '[' :: rest => '[' :: unescape rest
  | c :: rest => c :: unescape rest
  | [] => []

/-- The pieces of a text. Of the backslashes before a tag every two stand for one,
and one left over takes the tag as text. `fuel` bounds the length. -/
def piecesFrom : (fuel : Nat) → (position : Nat) → (chunk : List Char) → List Char → List Piece
  | 0, _, chunk, _ => [.plain (unescape chunk)]
  | fuel + 1, position, chunk, cs =>
    let slashes := cs.takeWhile (· = '\\')
    let n := slashes.length
    let rest := cs.drop n
    match tag? rest with
    | some (body, more) =>
      let next := position + n + body.length + 2
      .plain (unescape chunk) :: .plain (List.replicate (n / 2) '\\') ::
        (if n % 2 = 1 then .plain ('[' :: body ++ [']']) else .tag (position + 2 * (n / 2)) body) ::
        piecesFrom fuel next [] more
    | none =>
      match rest with
      | [] => [.plain (unescape (chunk ++ slashes))]
      | c :: more => piecesFrom fuel (position + n + 1) (chunk ++ slashes ++ [c]) more

def bare (name : List Char) : List Char := (Text.trim Text.isBlank name).map Char.toLower

def closeTag (name : List Char) : List (List Char) → Option (List (List Char))
  | [] => none
  | t :: rest => if t = name then some rest else (closeTag name rest).map (t :: ·)

def shownFrom (opened : List (List Char)) : List Piece → Except Raised (List Char)
  | [] => .ok []
  | .plain text :: rest => do .ok (Text.withSigns text ++ (← shownFrom opened rest))
  | .tag position body :: rest =>
    let word := body.takeWhile (· ≠ '=')
    match word with
    | '/' :: name =>
      match bare name, opened with
      | [], [] => .error (.unmatchedTag "[/]" position)
      | [], _ :: opened => shownFrom opened rest
      | name, opened =>
        match closeTag name opened with
        | some opened => shownFrom opened rest
        | none => .error (.unmatchedTag (String.ofList ('[' :: body ++ [']'])) position)
    | _ => shownFrom (bare word :: opened) rest

def shown (cs : List Char) : Except Raised (List Char) :=
  if cs.contains '[' then shownFrom [] (piecesFrom (cs.length + 1) 0 [] cs)
  else .ok (Text.withSigns cs)

end Markup

def Face.styledLabel (icons : IconTheme) (n : Face) : Except Raised String := do
  let item ← n.item icons
  let label := String.ofList (Markup.escape item.label.toList)
  let label := if n.synthetic then "[italic]" ++ label ++ "[/italic]" else label
  let label := match item.icon with
    | some i => if i.isEmpty then label else String.ofList (Markup.escape i.toList) ++ " " ++ label
    | none => label
  .ok (if item.state = .collapsed then
    label ++ " [dim](" ++ toString n.numChildren ++ ")[/dim]" else label)

end SymbolHierarchy
