import SymbolHierarchy.Text.Split
import SymbolHierarchy.Yaml.Timestamp

/-! Tags, and the tag that a plain scalar has by its look. Digits are those of
ASCII, and an underscore may stand between or behind them. -/
namespace SymbolHierarchy.Yaml

inductive Tag
  | null
  | bool
  | int
  | float
  | binary
  | timestamp
  | omap
  | pairs
  | set
  | str
  | seq
  | map
  | merge
  | value
  | other (text : String)
  deriving DecidableEq, Repr

namespace Tag

def standard : String := "tag:yaml.org,2002:"

def names : List (String × Tag) :=
  [("null", .null), ("bool", .bool), ("int", .int), ("float", .float), ("binary", .binary),
   ("timestamp", .timestamp), ("omap", .omap), ("pairs", .pairs), ("set", .set), ("str", .str),
   ("seq", .seq), ("map", .map), ("merge", .merge), ("value", .value)]

def ofText (s : String) : Tag :=
  match names.find? fun n => standard ++ n.1 = s with
  | some (_, t) => t
  | none => .other s

def spaced (c : Char) : Bool := c.isDigit || c = '_'

def digits (cs : List Char) : Bool := !cs.isEmpty && cs.all Char.isDigit

def unsigned : List Char → List Char
  | '+' :: rest | '-' :: rest => rest
  | cs => cs

def sixtieth : List Char → Bool
  | [d] => d.isDigit
  | [t, d] => '0' ≤ t && t ≤ '5' && d.isDigit
  | _ => false

def runOf (p : Char → Bool) (cs : List Char) : Bool := !cs.isEmpty && cs.all p

def isHex (c : Char) : Bool :=
  c.isDigit || ('a' ≤ c && c ≤ 'f') || ('A' ≤ c && c ≤ 'F')

def looksWhole (cs : List Char) : Bool :=
  match unsigned cs with
  | '0' :: 'b' :: ds => runOf (fun c => c = '0' || c = '1' || c = '_') ds
  | '0' :: 'x' :: ds => runOf (fun c => isHex c || c = '_') ds
  | '0' :: ds => ds.all fun c => ('0' ≤ c && c ≤ '7') || c = '_'
  | c :: ds =>
    c.isDigit && (ds.all spaced || match Text.pieces ':' ds with
      | first :: more => first.all spaced && !more.isEmpty && more.all sixtieth
      | [] => false)
  | [] => false

def exponent : List Char → Bool
  | [] => true
  | e :: s :: ds => (e = 'e' || e = 'E') && (s = '+' || s = '-') && digits ds
  | _ => false

def fraction (cs : List Char) : Bool := exponent (cs.dropWhile spaced)

def sixtiethFraction (cs : List Char) : Bool :=
  match Text.pieces '.' cs with
  | [w, f] => sixtieth w && f.all spaced
  | _ => false

def looksFraction (cs : List Char) : Bool :=
  match cs with
  | '.' :: d :: rest =>
    (d.isDigit && fraction rest) || [".nan", ".NaN", ".NAN"].contains (String.ofList cs) || infinite
  | _ => infinite || match unsigned cs with
    | d :: rest =>
      d.isDigit && match rest.dropWhile spaced with
        | '.' :: more => fraction more
        | ':' :: more =>
          let parts := Text.pieces ':' more
          parts.dropLast.all sixtieth && sixtiethFraction (parts.getLast?.getD [])
        | _ => false
    | [] => false
where
  infinite : Bool := [".inf", ".Inf", ".INF"].contains (String.ofList (unsigned cs))

def truthWords : List String :=
  ["yes", "Yes", "YES", "no", "No", "NO", "true", "True", "TRUE", "false", "False", "FALSE",
   "on", "On", "ON", "off", "Off", "OFF"]

def nullWords : List String := ["", "~", "null", "Null", "NULL"]

def signs : List String := ["!", "&", "*"]

def ofWord (s : String) : Tag :=
  let cs := s.toList
  if truthWords.contains s then .bool
  else if looksFraction cs then .float
  else if looksWhole cs then .int
  else if s = "<<" then .merge
  else if nullWords.contains s then .null
  else if Timestamp.looks cs then .timestamp
  else if s = "=" then .value
  else if signs.contains s then .other (standard ++ "yaml")
  else .str

def ofLook (s : String) : Tag :=
  if s = "\n" then .str else ofWord (String.ofList (withoutLastBreak s.toList))

end Tag
end SymbolHierarchy.Yaml
