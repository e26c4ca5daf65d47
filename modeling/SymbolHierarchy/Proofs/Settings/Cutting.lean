import Mathlib.Data.List.Infix
import SymbolHierarchy.Settings.Basic

/-! Where a mark stands in a text. If the mark's first sign does not come again in it, the text is
cut at the mark in one way only, and what is put in for the mark joins the pieces of that cut; it is
not looked at again. Joined pieces hold no mark where what joins them cannot end one that a piece
begins, nor begin one. -/
namespace SymbolHierarchy

/- A text and its pieces between the occurrences of a mark. -/
inductive Cut {α : Type} (mark : List α) : List α → List (List α) → Prop
  | last {piece : List α} (free : ¬ mark <:+: piece) : Cut mark piece [piece]
  | next {piece rest : List α} {pieces : List (List α)} (free : ¬ mark <:+: piece)
      (behind : Cut mark rest pieces) : Cut mark (piece ++ (mark ++ rest)) (piece :: pieces)

section Cutting

variable {α : Type} {c s : α}
  {mark tail text piece other rest more left right root : List α}
  {pieces others : List (List α)}

theorem Cut.some (cut : Cut mark text pieces) : pieces ≠ [] := by
  cases cut <;> exact List.cons_ne_nil _ _

theorem Cut.append (before : Cut mark left pieces) (after : Cut mark right others) :
    Cut mark (left ++ (mark ++ right)) (pieces ++ others) := by
  induction before with
  | last free => exact .next free after
  | next free behind ih =>
    rw [List.append_assoc, List.append_assoc]
    exact .next free ih

theorem cutSome (long : mark ≠ []) (text : List α) : ∃ pieces, Cut mark text pieces := by
  induction size : text.length using Nat.strong_induction_on generalizing text with
  | _ n ih =>
    by_cases marked : mark <:+: text
    · obtain ⟨left, right, rfl⟩ := marked
      have room := List.length_pos_of_ne_nil long
      simp only [List.length_append] at size
      obtain ⟨pieces, before⟩ := ih left.length (by omega) left rfl
      obtain ⟨others, after⟩ := ih right.length (by omega) right rfl
      exact ⟨pieces ++ others, List.append_assoc left mark right ▸ before.append after⟩
    · exact ⟨[text], .last marked⟩

theorem beginsNowhere (once : c ∉ tail) (free : ¬ c :: tail <:+: piece) (some : piece ≠ []) :
    ¬ c :: tail <+: piece ++ c :: rest := by
  intro begins
  rcases List.prefix_or_prefix_of_prefix begins (List.prefix_append piece _) with inside | across
  · exact free inside.isInfix
  · obtain ⟨beyond, whole⟩ := across
    obtain ⟨first, more, rfl⟩ := List.exists_cons_of_ne_nil some
    cases beyond with
    | nil => exact free (by simp [← whole])
    | cons next beyond =>
      rw [← whole, List.prefix_append_right_inj] at begins
      obtain ⟨rfl, _⟩ := List.cons_prefix_cons.mp begins
      rw [List.cons_append, List.cons.injEq] at whole
      exact once (whole.2 ▸ by simp)

theorem nothingBefore (once : c ∉ tail) (free : ¬ c :: tail <:+: left)
    (same : c :: tail ++ rest = left ++ (c :: tail ++ more)) : left = [] := by
  by_contra some
  exact beginsNowhere once free some (same ▸ List.prefix_append _ rest)

theorem firstSame (once : c ∉ tail) (free : ¬ c :: tail <:+: piece)
    (freeOther : ¬ c :: tail <:+: other)
    (same : piece ++ (c :: tail ++ rest) = other ++ (c :: tail ++ more)) :
    piece = other ∧ rest = more := by
  rcases List.append_eq_append_iff.mp same with ⟨left, rfl, behind⟩ | ⟨left, rfl, behind⟩
  · have within : left <:+: piece ++ left := (List.suffix_append piece left).isInfix
    cases nothingBefore once (fun inside => freeOther (inside.trans within)) behind
    simpa using behind
  · have within : left <:+: other ++ left := (List.suffix_append other left).isInfix
    cases nothingBefore once (fun inside => free (inside.trans within)) behind
    simpa using behind.symm

theorem cutOnce (once : c ∉ tail) (cut : Cut (c :: tail) text pieces)
    (again : Cut (c :: tail) text others) : pieces = others := by
  induction cut generalizing others with
  | @last piece free =>
    cases again with
    | last _ => rfl
    | next _ _ => exact absurd (List.infix_append' _ _ _) free
  | @next piece rest pieces free behind ih =>
    generalize whole : piece ++ (c :: tail ++ rest) = text at again
    cases again with
    | last other => exact absurd (whole ▸ List.infix_append' _ _ _) other
    | @next _ _ _ freeOther behindOther =>
      obtain ⟨rfl, rfl⟩ := firstSame once free freeOther whole
      rw [ih behindOther]

theorem cutUnique (once : c ∉ tail) (text : List α) : ∃! pieces, Cut (c :: tail) text pieces := by
  obtain ⟨pieces, cut⟩ := cutSome (List.cons_ne_nil c tail) text
  exact ⟨pieces, cut, fun others again => cutOnce once again cut⟩

theorem joinedClear (absolute : [s] <+: root) (apart : s ∉ c :: tail) (plain : c ∉ root)
    (cut : Cut (c :: tail) text pieces) : ¬ c :: tail <:+: root.intercalate pieces := by
  induction cut with
  | last free => rwa [List.intercalate_singleton]
  | next free behind ih =>
    rw [List.intercalate_cons_of_ne_nil behind.some, List.append_assoc, List.infix_append_iff,
      List.infix_append_iff]
    -- a mark across a border would begin in the root, or go on with the root's first sign
    rintro (inside | (own | later | ⟨front, back, split, ends, begins⟩) |
      ⟨front, back, split, ends, begins⟩)
    · exact free inside
    · exact plain (own.subset List.mem_cons_self)
    · exact ih later
    · cases front with
      | nil => exact ih (split ▸ begins.isInfix)
      | cons d front =>
        rw [List.cons_append, List.cons.injEq] at split
        exact plain (ends.subset (split.1 ▸ List.mem_cons_self))
    · cases back with
      | nil => exact free (by simpa [split] using ends.isInfix)
      | cons d back =>
        obtain ⟨below, rfl⟩ := absolute
        obtain ⟨rfl, _⟩ := List.cons_prefix_cons.mp begins
        exact apart (split ▸ by simp)

end Cutting

section Substituting

variable {α : Type} [BEq α] {c : α} {tail root rest piece text : List α}
  {pieces : List (List α)}

theorem substituteSkip (mark root : List α) (skip : Nat) (text : List α) :
    substitute mark root skip text = substitute mark root 0 (text.drop skip) := by
  induction text generalizing skip with
  | nil => simp [substitute]
  | cons c rest ih =>
    cases skip with
    | zero => rfl
    | succ skip => rw [substitute, ih, List.drop_succ_cons]

variable [LawfulBEq α]

theorem substituteMark (root rest : List α) :
    substitute (c :: tail) root 0 (c :: tail ++ rest) =
      root ++ substitute (c :: tail) root 0 rest := by
  rw [List.cons_append, substitute, ← List.cons_append,
    if_pos (List.isPrefixOf_iff_prefix.mpr (List.prefix_append _ rest)), substituteSkip]
  simp

theorem substituteOther {mark : List α} (other : ¬ mark <+: c :: rest) :
    substitute mark root 0 (c :: rest) = c :: substitute mark root 0 rest := by
  rw [substitute, if_neg (other ∘ List.isPrefixOf_iff_prefix.mp)]

theorem substituteFree {mark : List α} (free : ¬ mark <:+: text) :
    substitute mark root 0 text = text := by
  induction text with
  | nil => rfl
  | cons c rest ih =>
    rw [List.infix_cons_iff, not_or] at free
    rw [substituteOther free.1, ih free.2]

theorem substituteBefore (once : c ∉ tail) (free : ¬ c :: tail <:+: piece) (rest : List α) :
    substitute (c :: tail) root 0 (piece ++ (c :: tail ++ rest)) =
      piece ++ (root ++ substitute (c :: tail) root 0 rest) := by
  induction piece with
  | nil => exact substituteMark root rest
  | cons d piece ih =>
    have nowhere : ¬ c :: tail <+: d :: (piece ++ (c :: tail ++ rest)) :=
      beginsNowhere once free (List.cons_ne_nil d piece)
    rw [List.infix_cons_iff, not_or] at free
    rw [List.cons_append, substituteOther nowhere, ih free.2, List.cons_append]

theorem substituteCut (once : c ∉ tail) (cut : Cut (c :: tail) text pieces) :
    substitute (c :: tail) root 0 text = root.intercalate pieces := by
  induction cut with
  | last free => rw [substituteFree free, List.intercalate_singleton]
  | next free behind ih =>
    rw [substituteBefore once free, ih, List.intercalate_cons_of_ne_nil behind.some,
      List.append_assoc]

end Substituting

end SymbolHierarchy
