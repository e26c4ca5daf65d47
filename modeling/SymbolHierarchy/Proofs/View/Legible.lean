import SymbolHierarchy.Proofs.Node.Tree
import SymbolHierarchy.Node.Encode
import SymbolHierarchy.View.Markup
import Mathlib.Data.List.TakeWhile
import Mathlib.Tactic.SplitIfs

/-! Which nodes can be drawn. A label, an item and a styled label ask for one thing only: that the
host in the URI of a real node's location is in order. Nothing checks that where payloads are read,
so there are trees that are read and cannot be drawn. -/
namespace SymbolHierarchy

def Hinges {α : Type} (check : Except Raised Unit) (made : Except Raised α) : Prop :=
  ∃ a, made = check.map fun _ => a

theorem Hinges.next {α β : Type} {check : Except Raised Unit} {made : Except Raised α}
    {f : α → Except Raised β} (hinges : Hinges check made) (total : ∀ a, ∃ b, f a = .ok b) :
    Hinges check (made >>= f) := by
  obtain ⟨a, rfl⟩ := hinges
  obtain ⟨b, told⟩ := total a
  refine ⟨b, ?_⟩
  cases check with
  | error e => rfl
  | ok u => exact told

namespace Uri

def authorityOf : List Char → List Char
  | '/' :: '/' :: rest => rest.takeWhile (!endsAuthority ·)
  | _ => []

def authority (uri : String) : List Char :=
  authorityOf (splitScheme ((uri.toList.dropWhile isLeading).filter (!isDropped ·))).2

def checkHost (host : List Char) : Except Raised Unit := do
  checkAuthority host
  if host.any fun c => delimiterLike.contains c.toNat then
    .error (.compatibleHost (String.ofList host))

theorem authorityChecked (cs : List Char) : ∃ rest, splitAuthority cs =
    (checkAuthority (authorityOf cs)).map fun _ => (authorityOf cs, rest) := by
  by_cases slashes : ∃ rest, cs = '/' :: '/' :: rest
  · obtain ⟨rest, rfl⟩ := slashes
    have own : splitAuthority ('/' :: '/' :: rest) =
        (checkAuthority (rest.takeWhile (!endsAuthority ·))).bind fun _ =>
          .ok (rest.takeWhile (!endsAuthority ·), rest.dropWhile (!endsAuthority ·)) := rfl
    refine ⟨rest.dropWhile (!endsAuthority ·), ?_⟩
    rw [own, authorityOf]
    cases checkAuthority (rest.takeWhile (!endsAuthority ·)) <;> rfl
  · have plain : splitAuthority cs = .ok ([], cs) := by
      unfold splitAuthority
      split
      · exact (slashes ⟨_, rfl⟩).elim
      · rfl
    have none : authorityOf cs = [] := by
      unfold authorityOf
      split
      · exact (slashes ⟨_, rfl⟩).elim
      · rfl
    exact ⟨cs, by rw [plain, none]; rfl⟩

theorem pathHinges (uri : String) : Hinges (checkHost (authority uri)) (pathChars uri) := by
  unfold pathChars authority
  obtain ⟨scheme, after⟩ := splitScheme ((uri.toList.dropWhile isLeading).filter (!isDropped ·))
  obtain ⟨rest, told⟩ := authorityChecked after
  simp only [told, checkHost]
  cases checkAuthority (authorityOf after) with
  | error e => exact ⟨[], rfl⟩
  | ok u =>
    simp only [Except.map, bind, Except.bind]
    split
    · exact ⟨[], rfl⟩
    · exact ⟨_, rfl⟩

theorem basenameHinges (uri : String) : Hinges (checkHost (authority uri)) (basename uri) :=
  (pathHinges uri).next fun path => ⟨String.ofList (Path.ofChars (percentDecode path)).name, rfl⟩

/- An authority whose brackets enclose an address, and which no normal form splits. -/
structure InOrder (host : List Char) : Prop where
  brackets : checkAuthority host = .ok ()
  delimiters : ∀ c ∈ host, c.toNat ∉ delimiterLike

inductive HostFault : Raised → Prop
  | misplaced : HostFault .misplacedBracket
  | notAddress (host : String) : HostFault (.notAddress host)
  | short : HostFault .shortAddress
  | future : HostFault .futureAddress
  | compatible (host : String) : HostFault (.compatibleHost host)

section Host

variable {host : List Char} {e : Raised}

theorem bracketedFault (refused : checkBracketed host = .error e) : HostFault e := by
  unfold checkBracketed at refused
  split_ifs at refused <;> cases refused <;> constructor

theorem authorityFault (refused : checkAuthority host = .error e) : HostFault e := by
  unfold checkAuthority at refused
  split_ifs at refused with unpaired none
  · cases refused
    exact .misplaced
  · dsimp only at refused
    split at refused
    · split at refused
      · exact bracketedFault refused
      · exact bracketedFault refused
      · exact bracketedFault refused
      · cases refused
        exact .misplaced
    · split at refused
      · cases refused
        exact .misplaced
      · exact bracketedFault refused

theorem hostFault (refused : checkHost host = .error e) : HostFault e := by
  cases checked : checkAuthority host with
  | error e' =>
    simp only [checkHost, checked, bind, Except.bind, Except.error.injEq] at refused
    exact refused ▸ authorityFault checked
  | ok u =>
    simp only [checkHost, checked, bind, Except.bind] at refused
    split at refused
    · cases refused
      exact .compatible _
    · cases refused

theorem checkedExactly : checkHost host = .ok () ↔ InOrder host := by
  have reads : InOrder host ↔ checkAuthority host = .ok () ∧ ∀ c ∈ host, c.toNat ∉ delimiterLike :=
    ⟨fun own => ⟨own.brackets, own.delimiters⟩, fun own => ⟨own.1, own.2⟩⟩
  rw [reads]
  cases checked : checkAuthority host with
  | error e => simp [checkHost, checked, bind, Except.bind]
  | ok u => simp [checkHost, checked, bind, Except.bind, pure, Except.pure]

theorem plainInOrder (opened : '[' ∉ host) (closed : ']' ∉ host)
    (delimiters : ∀ c ∈ host, c.toNat ∉ delimiterLike) : InOrder host where
  brackets := by simp [checkAuthority, opened, closed]
  delimiters := delimiters

theorem unpairedOut (unpaired : '[' ∈ host ↔ ']' ∉ host) : ¬ InOrder host := by
  intro own
  have apart : (host.contains '[' != host.contains ']') = true := by
    by_cases opened : '[' ∈ host
    · simp [opened, unpaired.mp opened]
    · have closed : ']' ∈ host :=
        Classical.byContradiction fun absent => opened (unpaired.mpr absent)
      simp [opened, closed]
  have brackets := own.brackets
  rw [checkAuthority, if_pos apart] at brackets
  cases brackets

theorem withoutUserNone (user : '@' ∉ host) : withoutUser host = host := by
  have whole : host.reverse.takeWhile (· ≠ '@') = host.reverse := by
    rw [List.takeWhile_eq_self_iff]
    intro c mem
    have other : c ≠ '@' := fun same => user (same ▸ List.mem_reverse.mp mem)
    simpa using other
  rw [withoutUser, whole, List.reverse_reverse]

theorem enclosedExactly {address : List Char} (user : '@' ∉ address) (closed : ']' ∉ address) :
    checkAuthority ('[' :: (address ++ [']'])) = checkBracketed address := by
  have place : withoutUser ('[' :: (address ++ [']'])) = '[' :: (address ++ [']']) :=
    withoutUserNone (by simp [user])
  have inside : ∀ c ∈ address, (decide (c ≠ ']')) = true := by
    intro c mem
    have other : c ≠ ']' := fun same => closed (same ▸ mem)
    simpa using other
  have front : (address ++ [']']).takeWhile (· ≠ ']') = address := by
    rw [List.takeWhile_append_of_pos inside]
    exact List.append_nil address
  have behind : (address ++ [']']).dropWhile (· ≠ ']') = [']'] := by
    rw [List.dropWhile_append_of_pos inside]
    rfl
  rw [checkAuthority, if_neg (by simp), if_neg (by simp)]
  simp only [place]
  rw [behind, front]

end Host

theorem fileAuthority (path : String) : authority ("file:///" ++ path) = [] := by
  have front : ("file:///" ++ path).toList =
      'f' :: 'i' :: 'l' :: 'e' :: ':' :: '/' :: '/' :: '/' :: path.toList := by
    rw [String.toList_append]
    rfl
  rw [authority, front]
  rfl

end Uri

namespace Face

def checked (n : Face) : Except Raised Unit :=
  match n.synthetic, n.symbol.location with
  | false, some l => Uri.checkHost (Uri.authority l.uri)
  | _, _ => .ok ()

theorem labelHinges (n : Face) : Hinges n.checked n.label := by
  obtain ⟨symbol, facet, count, carried, synthetic, revealed⟩ := n
  obtain ⟨id, name, kind, location⟩ := symbol
  cases synthetic with
  | true => exact ⟨name, rfl⟩
  | false =>
    cases location with
    | none => exact ⟨name, rfl⟩
    | some l => exact (Uri.basenameHinges l.uri).next fun file => ⟨_, rfl⟩

structure Drawn (icons : IconTheme) (n : Face) : Prop where
  label : Hinges n.checked n.label
  item : Hinges n.checked (n.item icons)
  styled : Hinges n.checked (n.styledLabel icons)

theorem everyFaceDrawn (icons : IconTheme) (n : Face) : Drawn icons n := by
  have item : Hinges n.checked (n.item icons) := n.labelHinges.next fun _ => ⟨_, rfl⟩
  exact ⟨n.labelHinges, item, item.next fun _ => ⟨_, rfl⟩⟩

theorem checkedFault {n : Face} {e : Raised} (refused : n.checked = .error e) :
    Uri.HostFault e := by
  unfold checked at refused
  split at refused
  · exact Uri.hostFault refused
  · cases refused

theorem passesExactly {n : Face} : n.checked = .ok () ↔
    n.synthetic = true ∨ ∀ l, n.symbol.location = some l → Uri.InOrder (Uri.authority l.uri) := by
  unfold checked
  split
  · rename_i l real located
    simp [real, located, Uri.checkedExactly]
  · rename_i other
    refine iff_of_true rfl ?_
    cases synthetic : n.synthetic with
    | true => exact .inl rfl
    | false => exact .inr fun l located => (other l synthetic located).elim

end Face

open Node (ofWire)

/- What becomes of the nodes of a payload that is read, wherever they stand in its tree. -/
structure Drawings (m : Model) : Prop where
  drawn : ∀ v n, ofWire m v = .ok n → ∀ x ∈ n.preorder, ∀ icons, Face.Drawn icons x.face
  cause : ∀ v n, ofWire m v = .ok n → ∀ x ∈ n.preorder, ∀ e, x.face.checked = .error e →
    Uri.HostFault e
  exactly : ∀ v n, ofWire m v = .ok n → ∀ x ∈ n.preorder, x.face.checked = .ok () ↔
    x.synthetic = true ∨ ∀ l, x.location = some l → Uri.InOrder (Uri.authority l.uri)
  files : ∀ v n, ofWire m v = .ok n → ∀ x ∈ n.preorder,
    (∀ l, x.location = some l → ∃ path, l.uri = "file:///" ++ path) → x.face.checked = .ok ()
  unpaired : ∀ v n, ofWire m v = .ok n → ∀ x ∈ n.preorder, ∀ l, x.synthetic = false →
    x.location = some l → ('[' ∈ Uri.authority l.uri ↔ ']' ∉ Uri.authority l.uri) →
    x.face.checked ≠ .ok ()

theorem drawableExactly (m : Model) : Drawings m where
  drawn _ _ _ x _ icons := Face.everyFaceDrawn icons x.face
  cause _ _ _ _ _ _ := Face.checkedFault
  exactly _ _ _ _ _ := Face.passesExactly
  files _ _ _ x _ files := by
    refine Face.passesExactly.mpr (.inr fun l located => ?_)
    obtain ⟨path, same⟩ := files l located
    rw [same, Uri.fileAuthority]
    exact Uri.plainInOrder List.not_mem_nil List.not_mem_nil (by simp)
  unpaired _ _ _ x _ l real located apart passes := by
    rcases Face.passesExactly.mp passes with group | inOrder
    · exact absurd (real.symm.trans group) nofun
    · exact Uri.unpairedOut apart (inOrder l located)

def openBracket : Location := ⟨"http://[", ⟨⟨0, 0⟩, ⟨0, 0⟩⟩⟩

def openBracketWire : Json :=
  .object [("id", .int 1), ("name", .text "f"), ("numChildren", .int 0),
    ("location", openBracket.wire)]

theorem openBracketUndrawn : ¬ ∀ m v n, ofWire m v = .ok n → ∀ x ∈ n.preorder, ∀ icons,
    (∃ text, x.face.label = .ok text) ∧ (∃ item, x.face.item icons = .ok item) ∧
      ∃ text, x.face.styledLabel icons = .ok text := by
  intro all
  have read : ofWire .call openBracketWire =
      .ok (.mk ⟨some (.int 1), "f", none, some openBracket⟩ (.call .normal) 0 [] false false) := rfl
  obtain ⟨⟨text, told⟩, _⟩ := all _ _ _ read _ (Node.selfInPreorder _) {}
  cases told

end SymbolHierarchy
