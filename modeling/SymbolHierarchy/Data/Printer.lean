import SymbolHierarchy.Data.Json
import SymbolHierarchy.Number.Shortest

/-! Writing a value: on one line, or spread over lines with an indent of two.
Characters outside printable ASCII are written by their 16-bit units. -/
namespace SymbolHierarchy.Json

def hexDigitOf (n : Nat) : Char := (Nat.digitChar (n % 16))

def unitText (u : Nat) : List Char :=
  ['\\', 'u', hexDigitOf (u / 4096), hexDigitOf (u / 256), hexDigitOf (u / 16), hexDigitOf u]

def charText (c : Char) : List Char :=
  match c with
  | '"' => ['\\', '"']
  | '\\' => ['\\', '\\']
  | '\n' => ['\\', 'n']
  | '\r' => ['\\', 'r']
  | '\t' => ['\\', 't']
  | '\x08' => ['\\', 'b']
  | '\x0c' => ['\\', 'f']
  | _ =>
    let n := c.toNat
    if 32 ≤ n ∧ n < 127 then [c]
    else if n < 0x10000 then unitText n
    else unitText (0xD800 + (n - 0x10000) / 0x400) ++ unitText (0xDC00 + (n - 0x10000) % 0x400)

def quotedText (s : String) : List Char :=
  '"' :: s.toList.flatMap charText ++ ['"']

def scalarText : Scalar → List Char
  | .null => "null".toList
  | .bool b => (if b then "true" else "false").toList
  | .int n => (toString n).toList
  | .float .nan => "NaN".toList
  | .float (.infinite s) => (if s then "-Infinity" else "Infinity").toList
  | .float x => x.text.toList
  | .text s => quotedText s

def joined (sep : List Char) : List (List Char) → List Char
  | [] => []
  | [x] => x
  | x :: y :: rest => x ++ sep ++ joined sep (y :: rest)

mutual
def lineText : Json → List Char
  | .scalar s => scalarText s
  | .list items => '[' :: joined [',', ' '] (lineTexts items) ++ [']']
  | .object members => '{' :: joined [',', ' '] (memberLines members) ++ ['}']
def lineTexts : List Json → List (List Char)
  | [] => []
  | v :: rest => lineText v :: lineTexts rest
def memberLines : List (String × Json) → List (List Char)
  | [] => []
  | (k, v) :: rest => (quotedText k ++ ':' :: ' ' :: lineText v) :: memberLines rest
end

def line (v : Json) : String := String.ofList (lineText v)

def margin (depth : Nat) : List Char := '\n' :: List.replicate (2 * depth) ' '

mutual
def blockText (depth : Nat) : Json → List Char
  | .scalar s => scalarText s
  | .list [] => ['[', ']']
  | .list items =>
    '[' :: margin (depth + 1) ++ joined (',' :: margin (depth + 1)) (blockTexts (depth + 1) items)
      ++ margin depth ++ [']']
  | .object [] => ['{', '}']
  | .object members =>
    '{' :: margin (depth + 1) ++ joined (',' :: margin (depth + 1)) (memberBlocks (depth + 1) members)
      ++ margin depth ++ ['}']
def blockTexts (depth : Nat) : List Json → List (List Char)
  | [] => []
  | v :: rest => blockText depth v :: blockTexts depth rest
def memberBlocks (depth : Nat) : List (String × Json) → List (List Char)
  | [] => []
  | (k, v) :: rest => (quotedText k ++ ':' :: ' ' :: blockText depth v) :: memberBlocks depth rest
end

def block (v : Json) : String := String.ofList (blockText 0 v)

end SymbolHierarchy.Json
