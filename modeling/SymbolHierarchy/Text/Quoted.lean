import SymbolHierarchy.Text.Printable

/-! Quoted text. Single quotes enclose it, double quotes where it holds a single
quote and no double one. The enclosing quote, the backslash and every character
that is not printable are written by an escape; the rest stands as it is. -/
namespace SymbolHierarchy.Text

def enclosing (cs : List Char) : Char :=
  if cs.contains '\'' && !cs.contains '"' then '"' else '\''

def hexText (width n : Nat) : List Char :=
  let ds := Nat.toDigits 16 n
  List.replicate (width - ds.length) '0' ++ ds

def escaped (q c : Char) : List Char :=
  if c = q || c = '\\' then ['\\', c]
  else match c with
    | '\t' => ['\\', 't']
    | '\n' => ['\\', 'n']
    | '\r' => ['\\', 'r']
    | _ =>
      if isPrintable c then [c]
      else
        let n := c.toNat
        if n < 0x100 then '\\' :: 'x' :: hexText 2 n
        else if n < 0x10000 then '\\' :: 'u' :: hexText 4 n
        else '\\' :: 'U' :: hexText 8 n

def quoted (cs : List Char) : List Char :=
  let q := enclosing cs
  q :: cs.flatMap (escaped q) ++ [q]

def escapedByte (q : Char) (b : UInt8) : List Char :=
  if b < 0x80 then escaped q (Char.ofNat b.toNat) else '\\' :: 'x' :: hexText 2 b.toNat

def quotedBytes (bs : List UInt8) : List Char :=
  let q := enclosing (bs.map fun b => Char.ofNat b.toNat)
  'b' :: q :: bs.flatMap (escapedByte q) ++ [q]

end SymbolHierarchy.Text

def SymbolHierarchy.quote (s : String) : String :=
  String.ofList (Text.quoted s.toList)
