import SymbolHierarchy.Text.Utf8

/-! Percent coding. Unreserved characters and the slash are written as they are,
every other byte of the text's UTF-8 form by two hexadecimal digits. Reading
leaves a percent sign that two digits do not follow. -/
namespace SymbolHierarchy.Uri

def isUnreserved (b : UInt8) : Bool :=
  let c := Char.ofNat b.toNat
  c.isAlphanum || c = '_' || c = '.' || c = '-' || c = '~' || c = '/'

def hexUpper (n : Nat) : Char := (Nat.digitChar n).toUpper

def encodeByte (b : UInt8) : List Char :=
  if isUnreserved b then [Char.ofNat b.toNat]
  else ['%', hexUpper (b.toNat / 16), hexUpper (b.toNat % 16)]

def percentEncode (cs : List Char) : List Char :=
  (Text.encodeUtf8 cs).flatMap encodeByte

def hexValue (c : Char) : Option Nat :=
  if c.isDigit then some (c.toNat - 48)
  else if 'a' ≤ c ∧ c ≤ 'f' then some (c.toNat - 87)
  else if 'A' ≤ c ∧ c ≤ 'F' then some (c.toNat - 55)
  else none

def hexPair (a b : Char) : Option UInt8 := do
  some (UInt8.ofNat ((← hexValue a) * 16 + (← hexValue b)))

def escapedBytes : List Char → List UInt8
  | '%' :: a :: b :: rest =>
    match hexPair a b with
    | some x => x :: escapedBytes rest
    | none => 37 :: escapedBytes (a :: b :: rest)
  | c :: rest => UInt8.ofNat c.toNat :: escapedBytes rest
  | [] => []

def isAscii (c : Char) : Bool := c.toNat < 128

/-- Reads escapes run by run: a character outside ASCII stands for itself and
ends the run before it. -/
def percentDecodeFrom (run : List Char) : List Char → List Char
  | [] => Text.decodeUtf8 (escapedBytes run.reverse)
  | c :: rest =>
    if isAscii c then percentDecodeFrom (c :: run) rest
    else Text.decodeUtf8 (escapedBytes run.reverse) ++ c :: percentDecodeFrom [] rest

def percentDecode (cs : List Char) : List Char := percentDecodeFrom [] cs

end SymbolHierarchy.Uri
