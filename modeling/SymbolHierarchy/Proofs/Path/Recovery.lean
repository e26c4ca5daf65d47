import Mathlib.Data.List.TakeWhile
import SymbolHierarchy.Proofs.Path.Spelling
import SymbolHierarchy.Proofs.Paths.Directories
import SymbolHierarchy.Proofs.Uri.Coding
import SymbolHierarchy.View.Item

/-! What the URI of a file tells. Behind its scheme stands the coded text of the file's absolute
path, in which no sign is left that would cut a URI. So the path is read back from it whole, two
paths have one URI just where they are one path, and a label names the file. -/
namespace SymbolHierarchy

namespace Uri

variable {cs : List Char}

theorem fileScheme (rest : List Char) :
    splitScheme ("file://".toList ++ rest) = ("file", '/' :: '/' :: rest) := by
  have lower : (String.ofList "file".toList).toLower = "file" := by
    rw [← String.toList_inj]
    exact String.toList_map
  have split : splitScheme ("file://".toList ++ rest) =
      ((String.ofList "file".toList).toLower, '/' :: '/' :: rest) := rfl
  rw [split, lower]

theorem fileHost (rest : List Char) :
    splitAuthority ('/' :: '/' :: '/' :: rest) = .ok ([], '/' :: rest) := rfl

theorem plainKept (plain : ∀ c ∈ cs, isPlain c = true) :
    cs.filter (!isDropped ·) = cs ∧ (cs.takeWhile (· ≠ '#')).takeWhile (· ≠ '?') = cs := by
  have visible : ∀ c ∈ cs, 0x20 ≤ c.toNat ∧ c ≠ '#' ∧ c ≠ '?' := by
    intro c mem
    have own := plain c mem
    simp only [isPlain, Bool.and_eq_true, decide_eq_true_eq] at own
    exact ⟨own.1.1.2, own.1.2, own.2⟩
  constructor
  · refine List.filter_eq_self.mpr fun c mem => ?_
    have size := (visible c mem).1
    have stays : isDropped c = false := by
      by_contra dropped
      simp only [isDropped, Bool.or_eq_true, decide_eq_true_eq, Bool.not_eq_false] at dropped
      rcases dropped with (rfl | rfl) | rfl <;> exact absurd size (by decide)
    rw [stays, Bool.not_false]
  · have first : cs.takeWhile (· ≠ '#') = cs :=
      List.takeWhile_eq_self_iff.mpr fun c mem => decide_eq_true (visible c mem).2.1
    rw [first]
    exact List.takeWhile_eq_self_iff.mpr fun c mem => decide_eq_true (visible c mem).2.2

theorem filePath (plain : ∀ c ∈ '/' :: cs, isPlain c = true) :
    pathChars (String.ofList ("file://".toList ++ '/' :: cs)) = .ok ('/' :: cs) := by
  have front : ("file://".toList ++ '/' :: cs).dropWhile isLeading =
      "file://".toList ++ '/' :: cs := rfl
  have kept : ("file://".toList ++ '/' :: cs).filter (!isDropped ·) =
      "file://".toList ++ '/' :: cs := by
    rw [List.filter_append, (plainKept plain).1]
    rfl
  have parameters : parameterSchemes.contains "file" = false := by decide
  simp only [pathChars, String.toList_ofList, front, kept, fileScheme, fileHost, bind, Except.bind,
    List.any_nil, parameters]
  exact congrArg Except.ok (plainKept plain).2

end Uri

namespace Path
open Uri (percentEncode)

variable {e : Surroundings} {p : Path}

def expanded (e : Surroundings) (path : String) : Except Raised Path :=
  (e.expandHome (ofString path)).map e.absolute

theorem uriExpanded (e : Surroundings) (path : String) :
    uriOf e path = (expanded e path).map Path.uri := by
  unfold uriOf expanded
  cases e.expandHome (ofString path) <;> rfl

theorem absoluteProper (rooted : e.directory.Proper)
    (root : p.root = [] ∨ p.root = ['/'] ∨ p.root = ['/', '/'])
    (names : ∀ part ∈ p.parts, IsName part) : (e.absolute p).Proper := by
  unfold Surroundings.absolute join
  split
  · rename_i own
    refine ⟨root.resolve_left fun none => ?_, names⟩
    simp [isAbsolute, none] at own
  · exact ⟨rooted.root, fun part mem => (List.mem_append.mp mem).elim (rooted.names part)
      (names part)⟩

theorem expandedProper (rooted : e.directory.Proper) {path : String}
    (known : expanded e path = .ok p) : p.Proper := by
  have names := namesRead path.toList
  unfold expanded Surroundings.expandHome at known
  split at known
  · rename_i user rest _ same
    split at known
    · cases known
    · split at known
      · cases known
      · cases known
      · rename_i home _ _
        cases known
        refine absoluteProper rooted (rootEither home) fun part mem => ?_
        rcases List.mem_append.mp mem with inside | behind
        · exact namesRead home part inside
        · have own : part ∈ (ofString path).parts := by
            rw [same]
            exact List.mem_cons_of_mem _ behind
          exact names part own
  · cases known
    exact absoluteProper rooted (rootEither path.toList) names

/- What is read off a URI: the path, by strict and by lenient decoding, the name of the file, and a
label with that name. -/
structure Tells (uri : String) (p : Path) : Prop where
  absolute : p.Proper
  coded : ∃ text : List Char, uri = "file://" ++ String.ofList text ∧
    Text.decodeUtf8? (Uri.escapedBytes text) = some p.chars ∧ Uri.percentDecode text = p.chars
  named : Uri.basename uri = .ok (String.ofList p.name)
  labelled : ∀ (n : Face) (l : Location), n.synthetic = false → n.symbol.location = some l →
    l.uri = uri → n.label = .ok (n.symbol.name ++ " (" ++ String.ofList p.name ++ ":" ++
      toString (l.range.start.line + 1) ++ ")")

theorem codedStart (proper : p.Proper) : ∃ rest, percentEncode p.chars = '/' :: rest := by
  obtain ⟨behind, begins⟩ : ∃ behind, p.chars = '/' :: behind := by
    rw [proper.written]
    rcases proper.root with one | two
    · exact ⟨slashed p.parts, by rw [one]; rfl⟩
    · exact ⟨'/' :: slashed p.parts, by rw [two]; rfl⟩
  have slash : percentEncode ['/'] = ['/'] := by decide
  rw [begins, Uri.codedCons, slash]
  exact ⟨percentEncode behind, rfl⟩

theorem basenameTold (proper : p.Proper) : Uri.basename p.uri = .ok (String.ofList p.name) := by
  obtain ⟨rest, start⟩ := codedStart proper
  have plain := Uri.codedPlain p.chars
  rw [start] at plain
  have path := Uri.filePath plain
  rw [← start] at path
  rw [Paths.fileUri]
  unfold Paths.fileChars
  simp only [Uri.basename, path, bind, Except.bind, Uri.codedDecoded, proper.readBack]

theorem uriTells (proper : p.Proper) : Tells p.uri p where
  absolute := proper
  coded := by
    refine ⟨percentEncode p.chars, rfl, ?_, Uri.codedDecoded p.chars⟩
    rw [Uri.codedBytes, Text.strictText]
  named := basenameTold proper
  labelled n l real located same := by
    simp only [Face.label, real, located, same, basenameTold proper, bind, Except.bind]

theorem Tells.same {uri : String} {q : Path} (one : Tells uri p) (other : Tells uri q) : p = q := by
  obtain ⟨text, split, _, read⟩ := one.coded
  obtain ⟨text', split', _, read'⟩ := other.coded
  have texts : String.ofList text = String.ofList text' := by
    have both := congrArg String.toList (split.symm.trans split')
    rw [String.toList_append, String.toList_append, List.append_cancel_left_eq] at both
    exact String.toList_inj.mp both
  refine one.absolute.charsInjective other.absolute ?_
  rw [← read, ← read', String.ofList_inj.mp texts]

/- A URI made of a path tells that path, and tells it from every other. -/
theorem nothingLost (e : Surroundings) (rooted : e.directory.Proper) :
    (∀ path uri, uriOf e path = .ok uri → ∃ p, expanded e path = .ok p ∧ Tells uri p) ∧
      (∀ path other uri, uriOf e path = .ok uri → uriOf e other = .ok uri →
        expanded e path = expanded e other) ∧
      ∀ path other, (ofString path).isAbsolute = true → (ofString other).isAbsolute = true →
        ∃ uri, uriOf e path = .ok uri ∧
          (uriOf e other = .ok uri ↔ ofString path = ofString other) := by
  have tells : ∀ path uri, uriOf e path = .ok uri →
      ∃ p, expanded e path = .ok p ∧ Tells uri p := by
    intro path uri made
    rw [uriExpanded] at made
    cases known : expanded e path with
    | error r => simp [known, Except.map] at made
    | ok p =>
      simp only [known, Except.map, Except.ok.injEq] at made
      exact ⟨p, rfl, made ▸ uriTells (expandedProper rooted known)⟩
  refine ⟨tells, ?_, ?_⟩
  · intro path other uri made made'
    obtain ⟨p, known, told⟩ := tells path uri made
    obtain ⟨q, known', told'⟩ := tells other uri made'
    rw [known, known', told.same told']
  · intro path other own own'
    refine ⟨_, Paths.absoluteUri e own, ?_⟩
    rw [Paths.absoluteUri e own', Except.ok.injEq]
    constructor
    · intro same
      have told : Tells (ofString path).uri (ofString other) := same ▸ uriTells (properOf own')
      exact (uriTells (properOf own)).same told
    · exact fun same => same ▸ rfl

def settled : Surroundings :=
  { directory := ofString "/home/me", environment := [("HOME", "/home/me")] }

theorem nothingLostHome :
    settled.directory.Proper ∧
      ∃ uri, uriOf settled "~/a b/c;d?e#f%25\n[é].h" = .ok uri ∧
        Uri.basename uri = .ok "c;d?e#f%25\n[é].h" := by
  have rooted : settled.directory.Proper := properOf (by decide)
  obtain ⟨tells, _⟩ := nothingLost settled rooted
  have known : expanded settled "~/a b/c;d?e#f%25\n[é].h" =
      .ok (ofString "/home/me/a b/c;d?e#f%25\n[é].h") := by decide
  have made := uriExpanded settled "~/a b/c;d?e#f%25\n[é].h"
  rw [known] at made
  obtain ⟨p, own, told⟩ := tells _ _ made
  have name := told.named
  rw [known] at own
  cases own
  exact ⟨rooted, _, made, name⟩

end Path
end SymbolHierarchy
