import Mathlib.Data.List.Basic
import SymbolHierarchy.Path.Basic

/-! How an absolute path is written. No component holds a slash, so the written path is read back
as the path it was. Where the text of one path begins with that of a directory, the path lies below
the directory, or it stands beside it: the last name of the directory goes on, or the single slash
of the directory is the first of two. -/
namespace SymbolHierarchy

namespace Text

variable {sep : Char}

theorem piecesCut (sep : Char) (rest : List Char) :
    pieces sep (sep :: rest) = [] :: pieces sep rest := by
  simp [pieces]

theorem piecesFree {cs piece : List Char} (mem : piece ∈ pieces sep cs) : sep ∉ piece := by
  induction cs generalizing piece with
  | nil => simp_all [pieces]
  | cons c rest ih =>
    by_cases cut : c = sep
    · rw [cut, piecesCut, List.mem_cons] at mem
      rcases mem with rfl | later
      · exact List.not_mem_nil
      · exact ih later
    · cases back : pieces sep rest with
      | nil => exact absurd back (piecesNonempty sep rest)
      | cons first more =>
        simp only [pieces, cut, if_false, back, List.mem_cons] at mem
        rcases mem with rfl | later
        · have tail : sep ∉ first := ih (back ▸ List.mem_cons_self)
          simp [Ne.symm cut, tail]
        · exact ih (back ▸ List.mem_cons_of_mem _ later)

theorem piecesJoined {name rest first : List Char} {more : List (List Char)} (free : sep ∉ name)
    (back : pieces sep rest = first :: more) :
    pieces sep (name ++ rest) = (name ++ first) :: more := by
  induction name with
  | nil => exact back
  | cons c name ih =>
    rw [List.mem_cons, not_or] at free
    simp [pieces, Ne.symm free.1, ih free.2]

end Text

namespace Path
open Text (pieces)

def IsName (part : List Char) : Prop := isComponent part = true ∧ '/' ∉ part

/- What is read off an absolute path's text: one of the two roots, and names below it. -/
structure Proper (p : Path) : Prop where
  root : p.root = ['/'] ∨ p.root = ['/', '/']
  names : ∀ part ∈ p.parts, IsName part

def under (d : Path) (rest : List (List Char)) : Path := d.join ⟨[], rest⟩

inductive Beside (d : Path) : Path → Prop
  | longer {front tail : List (List Char)} {name more : List Char}
      (last : d.parts = front ++ [name]) (goesOn : more ≠ []) :
      Beside d ⟨d.root, front ++ (name ++ more) :: tail⟩
  | doubled {parts : List (List Char)} (slash : d.root = ['/']) (bare : d.parts = []) :
      Beside d ⟨['/', '/'], parts⟩

section Reading

variable {rest : List Char} {front tail : List (List Char)} {name first : List Char}

theorem rootEither (cs : List Char) :
    rootOf cs = [] ∨ rootOf cs = ['/'] ∨ rootOf cs = ['/', '/'] := by
  fun_cases rootOf cs <;> simp

theorem namesRead (cs : List Char) : ∀ part ∈ (ofChars cs).parts, IsName part := by
  intro part mem
  obtain ⟨piece, component⟩ := List.mem_filter.mp mem
  exact ⟨component, Text.piecesFree piece⟩

theorem properOf {path : String} (absolute : (ofString path).isAbsolute = true) :
    (ofString path).Proper := by
  refine ⟨?_, namesRead path.toList⟩
  rcases rootEither path.toList with none | some
  · simp [isAbsolute, ofString, ofChars, none] at absolute
  · exact some

theorem componentGoesOn (component : isComponent name = true) (more : List Char) :
    isComponent (name ++ more) = true := by
  simp only [isComponent, Bool.and_eq_true, Bool.not_eq_true', List.isEmpty_eq_false_iff,
    bne_iff_ne] at component ⊢
  refine ⟨List.append_ne_nil_of_left_ne_nil component.1 _, fun dot => ?_⟩
  rcases List.append_eq_singleton_iff.mp dot with ⟨none, _⟩ | ⟨own, _⟩
  · exact component.1 none
  · exact component.2 own

theorem piecesSlashed (free : ∀ part ∈ front ++ [name], '/' ∉ part)
    (back : pieces '/' rest = first :: tail) :
    pieces '/' (slashed (front ++ [name]) ++ rest) = front ++ (name ++ first) :: tail := by
  induction front with
  | nil => exact Text.piecesJoined (free name (by simp)) back
  | cons part front ih =>
    have later := ih fun p mem => free p (List.mem_cons_of_mem _ mem)
    have cut : pieces '/' ('/' :: (slashed (front ++ [name]) ++ rest)) =
        [] :: (front ++ (name ++ first) :: tail) := by
      rw [Text.piecesCut, later]
    have joined := Text.piecesJoined (free part (by simp)) cut
    cases front <;> simpa [slashed] using joined

theorem slashedStart {names : List (List Char)} (some : names ≠ [])
    (proper : ∀ name ∈ names, IsName name) :
    ∃ c cs, slashed names = c :: cs ∧ c ≠ '/' := by
  obtain ⟨name, more, rfl⟩ := List.exists_cons_of_ne_nil some
  obtain ⟨component, free⟩ := proper name List.mem_cons_self
  cases name with
  | nil => simp [isComponent] at component
  | cons c cs =>
    rw [slashedCons]
    exact ⟨c, _, rfl, fun slash => free (slash ▸ List.mem_cons_self)⟩

theorem rootRead {root : List Char} (known : root = ['/'] ∨ root = ['/', '/']) {c : Char}
    (plain : c ≠ '/') (rest : List Char) : rootOf (root ++ c :: rest) = root := by
  rcases known with rfl | rfl
  · rw [List.singleton_append, rootOf.eq_def]
    split <;> simp_all
  · simp [rootOf, plain]

theorem rootSkipped {root : List Char} (known : root = ['/'] ∨ root = ['/', '/'])
    (text : List Char) :
    (pieces '/' (root ++ text)).filter isComponent = (pieces '/' text).filter isComponent := by
  have nothing : isComponent [] = false := rfl
  rcases known with rfl | rfl <;> simp [Text.piecesCut, nothing]

end Reading

namespace Proper

variable {d p : Path} {front : List (List Char)} {name : List Char}

theorem written (proper : p.Proper) : p.chars = p.root ++ slashed p.parts := by
  rcases proper.root with one | two
  · simp [chars, one]
  · simp [chars, two]

theorem absolute (proper : p.Proper) : p.isAbsolute = true := by
  rcases proper.root with one | two
  · simp [isAbsolute, one]
  · simp [isAbsolute, two]

theorem readOn (proper : d.Proper) (last : d.parts = front ++ [name]) (text : List Char) :
    ∃ more tail, ofChars (d.chars ++ text) = ⟨d.root, front ++ (name ++ more) :: tail⟩ ∧
      (text = [] → more = [] ∧ tail = []) := by
  have names := last ▸ proper.names
  cases back : pieces '/' text with
  | nil => exact absurd back (Text.piecesNonempty '/' text)
  | cons first others =>
    obtain ⟨c, cs, start, plain⟩ := slashedStart (by simp) names
    have spelled : d.chars ++ text = d.root ++ c :: (cs ++ text) := by
      rw [proper.written, last, start, List.append_assoc, List.cons_append]
    have cut := piecesSlashed (fun part mem => (names part mem).2) back
    have fronts : front.filter isComponent = front :=
      List.filter_eq_self.mpr fun part mem => (names part (List.mem_append_left _ mem)).1
    have own := componentGoesOn (names name (by simp)).1 first
    have parts : (pieces '/' (d.chars ++ text)).filter isComponent =
        front ++ (name ++ first) :: others.filter isComponent := by
      rw [proper.written, List.append_assoc, rootSkipped proper.root, last, cut,
        List.filter_append, fronts, List.filter_cons_of_pos own]
    refine ⟨first, others.filter isComponent, ?_, fun none => ?_⟩
    · rw [ofChars, parts, spelled, rootRead proper.root plain]
    · subst none
      obtain ⟨rfl, rfl⟩ := List.cons.inj back.symm
      exact ⟨rfl, rfl⟩

theorem readBack (proper : p.Proper) : ofChars p.chars = p := by
  rcases List.eq_nil_or_concat p.parts with bare | ⟨front, name, last⟩
  · obtain ⟨root, parts⟩ := p
    subst bare
    rcases proper.root with rfl | rfl <;> decide
  · rw [List.concat_eq_append] at last
    obtain ⟨more, tail, read, none⟩ := proper.readOn last []
    obtain ⟨rfl, rfl⟩ := none rfl
    rw [List.append_nil, List.append_nil, ← last] at read
    exact read

theorem charsInjective (first : d.Proper) (second : p.Proper) (same : d.chars = p.chars) :
    d = p := by
  rw [← first.readBack, same, second.readBack]

end Proper

section Under

variable {d p : Path} {rest : List (List Char)}

@[simp] theorem underRoot (d : Path) (rest : List (List Char)) : (d.under rest).root = d.root := rfl

@[simp] theorem underParts (d : Path) (rest : List (List Char)) :
    (d.under rest).parts = d.parts ++ rest := rfl

theorem Proper.under (proper : d.Proper) (names : ∀ part ∈ rest, IsName part) :
    (d.under rest).Proper where
  root := proper.root
  names := fun name mem => (List.mem_append.mp mem).elim (proper.names name) (names name)

theorem Proper.below (proper : (d.under rest).Proper) : ∀ part ∈ rest, IsName part :=
  fun name mem => proper.names name (List.mem_append_right _ mem)

theorem slashedAppend {front back : List (List Char)} (some : front ≠ []) (more : back ≠ []) :
    slashed (front ++ back) = slashed front ++ '/' :: slashed back := by
  induction front with
  | nil => exact absurd rfl some
  | cons part front ih =>
    cases front with
    | nil =>
      cases back with
      | nil => exact absurd rfl more
      | cons next back => rfl
    | cons next front =>
      have later := ih (List.cons_ne_nil _ _)
      simpa [slashed] using later

def behind (d : Path) (rest : List (List Char)) : List Char :=
  if rest = [] ∨ d.parts = [] then slashed rest else '/' :: slashed rest

theorem Proper.underWritten (proper : (d.under rest).Proper) :
    (d.under rest).chars = d.chars ++ d.behind rest := by
  have own : d.Proper :=
    ⟨proper.root, fun part mem => proper.names part (List.mem_append_left _ mem)⟩
  rw [proper.written, own.written, underRoot, underParts, behind]
  split
  · rename_i short
    rcases short with none | bare
    · simp [none, slashed]
    · simp [bare, slashed]
  · rename_i long
    obtain ⟨deeper, named⟩ := not_or.mp long
    rw [slashedAppend named deeper, List.append_assoc]

theorem behindSame {old new : Path} :
    old.behind rest = new.behind rest ↔ rest = [] ∨ (old.parts = [] ↔ new.parts = []) := by
  have longer : '/' :: slashed rest ≠ slashed rest := List.cons_ne_self _ _
  by_cases deeper : rest = []
  · simp [behind, deeper]
  · by_cases first : old.parts = [] <;> by_cases second : new.parts = [] <;>
      simp [behind, deeper, first, second, longer, longer.symm]

theorem slashedPrefix (front : List (List Char)) (name more : List Char)
    (tail : List (List Char)) :
    slashed (front ++ [name]) <+: slashed (front ++ (name ++ more) :: tail) := by
  have last : slashed [name] <+: slashed ((name ++ more) :: tail) := by
    cases tail <;> simp [slashed]
  cases front with
  | nil => exact last
  | cons part front =>
    rw [slashedAppend (List.cons_ne_nil _ _) (List.cons_ne_nil _ _),
      slashedAppend (List.cons_ne_nil _ _) (List.cons_ne_nil _ _), List.prefix_append_right_inj]
    exact (List.prefix_cons_inj '/').mpr last

theorem Beside.absolute (directory : d.Proper) (beside : d.Beside p) : p.isAbsolute = true := by
  cases beside with
  | longer last goesOn => exact directory.absolute
  | doubled slash bare => rfl

theorem Beside.begins (directory : d.Proper) (path : p.Proper) (beside : d.Beside p) :
    d.chars <+: p.chars := by
  rw [directory.written, path.written]
  cases beside with
  | longer last goesOn =>
    rw [last, List.prefix_append_right_inj]
    exact slashedPrefix _ _ _ _
  | doubled slash bare =>
    rw [slash, bare]
    exact ⟨'/' :: slashed _, rfl⟩

theorem besideExactly (directory : d.Proper) (path : p.Proper)
    (outside : ∀ rest, p ≠ d.under rest) : d.chars <+: p.chars ↔ d.Beside p := by
  refine ⟨?_, Beside.begins directory path⟩
  rintro ⟨text, goesOn⟩
  rcases List.eq_nil_or_concat d.parts with bare | ⟨front, name, last⟩
  · have apart : p.root ≠ d.root := fun same => outside p.parts (by
      cases p
      simp_all [under, join, isAbsolute])
    rw [directory.written, path.written, bare] at goesOn
    rcases directory.root with one | two
    · have double : p.root = ['/', '/'] := path.root.resolve_left (one ▸ apart)
      obtain ⟨root, parts⟩ := p
      subst double
      exact .doubled one bare
    · have single : p.root = ['/'] := path.root.resolve_right (two ▸ apart)
      rw [two, single] at goesOn
      have slash : slashed p.parts = '/' :: text := (List.cons.inj goesOn).2.symm
      have some : p.parts ≠ [] := fun none => by simp [none, slashed] at slash
      obtain ⟨c, cs, start, plain⟩ := slashedStart some path.names
      exact absurd (List.cons.inj (start.symm.trans slash)).1 plain
  · rw [List.concat_eq_append] at last
    obtain ⟨more, tail, read, _⟩ := directory.readOn last text
    rw [goesOn, path.readBack] at read
    subst read
    refine .longer last fun none => outside tail ?_
    simp [under, join, isAbsolute, last, none]

end Under

end Path
end SymbolHierarchy
