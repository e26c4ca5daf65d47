/-! UTF-8. A text is written character by character. Bytes are read into
characters and gaps, one gap for each longest run that could have begun a
character; a strict reader refuses gaps, a tolerant one shows them. -/
namespace SymbolHierarchy.Text

def byte (n : Nat) : UInt8 := UInt8.ofNat n

def encodeChar (c : Char) : List UInt8 :=
  let n := c.toNat
  if n < 0x80 then [byte n]
  else if n < 0x800 then [byte (0xC0 + n / 64), byte (0x80 + n % 64)]
  else if n < 0x10000 then
    [byte (0xE0 + n / 4096), byte (0x80 + n / 64 % 64), byte (0x80 + n % 64)]
  else
    [byte (0xF0 + n / 262144), byte (0x80 + n / 4096 % 64), byte (0x80 + n / 64 % 64),
      byte (0x80 + n % 64)]

def encodeUtf8 (cs : List Char) : List UInt8 := cs.flatMap encodeChar

/-- How many bytes follow a leading byte, the bounds of the first of them, and
the leading byte's share of the character. -/
def leading (b : Nat) : Option (Nat × Nat × Nat × Nat) :=
  if 0xC2 ≤ b ∧ b ≤ 0xDF then some (1, 0x80, 0xBF, b - 0xC0)
  else if b = 0xE0 then some (2, 0xA0, 0xBF, 0)
  else if b = 0xED then some (2, 0x80, 0x9F, 13)
  else if 0xE1 ≤ b ∧ b ≤ 0xEF then some (2, 0x80, 0xBF, b - 0xE0)
  else if b = 0xF0 then some (3, 0x90, 0xBF, 0)
  else if 0xF1 ≤ b ∧ b ≤ 0xF3 then some (3, 0x80, 0xBF, b - 0xF0)
  else if b = 0xF4 then some (3, 0x80, 0x8F, 4)
  else none

structure Begun where
  value : Nat
  left : Nat
  low : Nat
  high : Nat

def startByte (b : Nat) : Option Begun × List (Option Char) :=
  if b < 0x80 then (none, [some (Char.ofNat b)])
  else match leading b with
    | some (left, low, high, share) => (some ⟨share, left, low, high⟩, [])
    | none => (none, [none])

def readByte (s : Option Begun) (b : Nat) : Option Begun × List (Option Char) :=
  match s with
  | none => startByte b
  | some g =>
    if g.low ≤ b ∧ b ≤ g.high then
      let v := g.value * 64 + (b - 0x80)
      if g.left ≤ 1 then (none, [some (Char.ofNat v)])
      else (some ⟨v, g.left - 1, 0x80, 0xBF⟩, [])
    else
      let (s, out) := startByte b
      (s, none :: out)

def readBytes (s : Option Begun) : List UInt8 → List (Option Char)
  | [] => if s.isSome then [none] else []
  | b :: rest =>
    let (s, out) := readByte s b.toNat
    out ++ readBytes s rest

def decodeUtf8? (bytes : List UInt8) : Option (List Char) :=
  (readBytes none bytes).mapM id

def decodeUtf8 (bytes : List UInt8) : List Char :=
  (readBytes none bytes).map fun c => c.getD '\ufffd'

def ofPoint (point : Nat) : List Char :=
  if point.isValidChar then [Char.ofNat point] else List.replicate 3 '\ufffd'

def ofPoints (points : List Nat) : String := String.ofList (points.flatMap ofPoint)

end SymbolHierarchy.Text
