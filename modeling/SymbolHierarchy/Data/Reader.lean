import SymbolHierarchy.Data.Json

/-! Reading a value from its written form, one character at a time: a mode for
the token at hand and a stack of the lists and objects still open. Of two
members of one name the later value stands, at the earlier place. A surrogate
without its partner is read as the replacement character. -/
namespace SymbolHierarchy.Json.Reader

inductive Mode
  | between
  | bare (rev : List Char)
  | quoted (rev : List Char) (high : Option Nat)
  | escaped (rev : List Char) (high : Option Nat)
  | hex (rev : List Char) (high : Option Nat) (left : Nat) (value : Nat)

inductive Turn
  | value
  | valueOrClose
  | key
  | keyOrClose
  | colon
  | commaOrClose
  | done
  deriving DecidableEq

inductive Frame
  | list (rev : List Json)
  | object (members : List (String × Json)) (key : String)

structure State where
  mode : Mode := .between
  turn : Turn := .value
  frames : List Frame := []
  result : Option Json := none

def isBlank (c : Char) : Bool := c = ' ' || c = '\t' || c = '\n' || c = '\r'

def accept (s : State) (v : Json) : Option State :=
  if s.turn ≠ .value ∧ s.turn ≠ .valueOrClose then none
  else match s.frames with
    | [] => some { s with mode := .between, turn := .done, result := some v }
    | .list rev :: rest =>
      some { s with mode := .between, turn := .commaOrClose, frames := .list (v :: rev) :: rest }
    | .object members key :: rest =>
      some { s with mode := .between, turn := .commaOrClose,
                    frames := .object (put key v members) key :: rest }

def acceptText (s : State) (rev : List Char) : Option State :=
  let t := String.ofList rev.reverse
  match s.turn, s.frames with
  | .key, .object members _ :: rest | .keyOrClose, .object members _ :: rest =>
    some { s with mode := .between, turn := .colon, frames := .object members t :: rest }
  | _, _ => accept s (.text t)

def digitsValue (ds : List Char) : Nat :=
  ds.foldl (fun n c => n * 10 + (c.toNat - '0'.toNat)) 0

def number (word : List Char) : Option Json :=
  let negative := word.head? = some '-'
  let body := if negative then word.drop 1 else word
  let whole := body.takeWhile Char.isDigit
  let rest := body.dropWhile Char.isDigit
  if whole.isEmpty || (whole.head? = some '0' && whole.length > 1) then none
  else
    let (frac, rest, point) := match rest with
      | '.' :: more => (more.takeWhile Char.isDigit, more.dropWhile Char.isDigit, true)
      | _ => ([], rest, false)
    if point && frac.isEmpty then none
    else
      let mantissa := digitsValue (whole ++ frac)
      match rest with
      | [] =>
        if point then some (.float (.ofDecimal negative mantissa (-(frac.length : Int))))
        else some (.int (Binary64.signed negative mantissa))
      | e :: more =>
        if e ≠ 'e' ∧ e ≠ 'E' then none
        else
          let (down, ds) := match more with
            | '-' :: ds => (true, ds)
            | '+' :: ds => (false, ds)
            | ds => (false, ds)
          if ds.isEmpty || !ds.all Char.isDigit then none
          else
            let x := Binary64.signed down (digitsValue ds)
            some (.float (.ofDecimal negative mantissa (x - (frac.length : Int))))

def word (w : List Char) : Option Json :=
  match String.ofList w with
  | "null" => some .null
  | "true" => some (.bool true)
  | "false" => some (.bool false)
  | "NaN" => some (.float .nan)
  | "Infinity" => some (.float (.infinite false))
  | "-Infinity" => some (.float (.infinite true))
  | _ => number w

def openFrame (s : State) (f : Frame) (turn : Turn) : Option State :=
  if s.turn = .value ∨ s.turn = .valueOrClose then
    some { s with turn := turn, frames := f :: s.frames }
  else none

def closeFrame (s : State) (v : Json) (rest : List Frame) : Option State :=
  accept { s with turn := .value, frames := rest } v

def structural (s : State) (c : Char) : Option State :=
  if isBlank c then some s
  else match c with
    | '[' => openFrame s (.list []) .valueOrClose
    | '{' => openFrame s (.object [] "") .keyOrClose
    | ']' =>
      match s.turn, s.frames with
      | .valueOrClose, .list rev :: rest | .commaOrClose, .list rev :: rest =>
        closeFrame s (.list rev.reverse) rest
      | _, _ => none
    | '}' =>
      match s.turn, s.frames with
      | .keyOrClose, .object members _ :: rest | .commaOrClose, .object members _ :: rest =>
        closeFrame s (.object members) rest
      | _, _ => none
    | ',' =>
      match s.turn, s.frames with
      | .commaOrClose, .list _ :: _ => some { s with turn := .value }
      | .commaOrClose, .object _ _ :: _ => some { s with turn := .key }
      | _, _ => none
    | ':' => if s.turn = .colon then some { s with turn := .value } else none
    | '"' => some { s with mode := .quoted [] none }
    | _ => some { s with mode := .bare [c] }

def replacement : Char := '\ufffd'

def settle (rev : List Char) : Option Nat → List Char
  | some _ => replacement :: rev
  | none => rev

def unit (rev : List Char) (high : Option Nat) (u : Nat) : Mode :=
  if 0xDC00 ≤ u ∧ u < 0xE000 then
    match high with
    | some h => .quoted (Char.ofNat (0x10000 + (h - 0xD800) * 0x400 + (u - 0xDC00)) :: rev) none
    | none => .quoted (replacement :: rev) none
  else if 0xD800 ≤ u ∧ u < 0xDC00 then .quoted (settle rev high) (some u)
  else .quoted (Char.ofNat u :: settle rev high) none

def hexDigit (c : Char) : Option Nat :=
  if c.isDigit then some (c.toNat - '0'.toNat)
  else if 'a' ≤ c ∧ c ≤ 'f' then some (c.toNat - 'a'.toNat + 10)
  else if 'A' ≤ c ∧ c ≤ 'F' then some (c.toNat - 'A'.toNat + 10)
  else none

def escapeOf : Char → Option Char
  | '"' => some '"'
  | '\\' => some '\\'
  | '/' => some '/'
  | 'b' => some '\x08'
  | 'f' => some '\x0c'
  | 'n' => some '\n'
  | 'r' => some '\r'
  | 't' => some '\t'
  | _ => none

def ends (c : Char) : Bool :=
  isBlank c || c = ',' || c = ']' || c = '}' || c = ':'

def step (s : State) (c : Char) : Option State :=
  match s.mode with
  | .between => structural s c
  | .bare rev =>
    if ends c then do
      let v ← word rev.reverse
      let s ← accept s v
      structural s c
    else some { s with mode := .bare (c :: rev) }
  | .quoted rev high =>
    match c with
    | '"' => acceptText s (settle rev high)
    | '\\' => some { s with mode := .escaped rev high }
    | _ => if c.toNat < 32 then none else some { s with mode := .quoted (c :: settle rev high) none }
  | .escaped rev high =>
    if c = 'u' then some { s with mode := .hex rev high 4 0 }
    else (escapeOf c).map fun e => { s with mode := .quoted (e :: settle rev high) none }
  | .hex rev high left value => do
    let d ← hexDigit c
    let value := value * 16 + d
    if left ≤ 1 then some { s with mode := unit rev high value }
    else some { s with mode := .hex rev high (left - 1) value }

def finish (s : State) : Option Json := do
  let s ← match s.mode with
    | .between => some s
    | .bare rev => do accept s (← word rev.reverse)
    | _ => none
  if s.turn = .done then s.result else none

end Reader

def read? (text : String) : Option Json := do
  let s ← text.toList.foldlM Reader.step {}
  Reader.finish s

end SymbolHierarchy.Json
