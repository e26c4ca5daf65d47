import SymbolHierarchy.Proofs.Path.Spelling
import SymbolHierarchy.Proofs.Paths.Firing
import SymbolHierarchy.Proofs.Uri.Coding

/-! A rule between two directories. It puts the text of the one in place of the other's at the
start of a URI, and knows nothing of where a name ends. So a path below the one directory becomes
the same path below the other unless just one of the two is a root, whose text ends in a slash;
and of the paths outside it takes up those beside it. -/
namespace SymbolHierarchy.Paths
open Uri (percentEncode)

def fileChars (cs : List Char) : List Char := "file://".toList ++ percentEncode cs

theorem fileUri (p : Path) : p.uri = String.ofList (fileChars p.chars) := by
  unfold Path.uri fileChars
  rw [String.ofList_append, String.ofList_toList]

theorem fileAppend (a b : List Char) : fileChars (a ++ b) = fileChars a ++ percentEncode b := by
  unfold fileChars
  rw [Uri.codedAppend, List.append_assoc]

theorem filePrefix {a b : List Char} : fileChars a <+: fileChars b ↔ a <+: b := by
  unfold fileChars
  rw [List.prefix_append_right_inj, Uri.codedPrefix]

theorem fileSame {a b : List Char} :
    String.ofList (fileChars a) = String.ofList (fileChars b) ↔ a = b := by
  unfold fileChars
  rw [String.ofList_inj, List.append_right_inj]
  exact ⟨Uri.codedInjective, congrArg _⟩

def between (old new : Path) : Paths := ⟨[⟨fileChars old.chars, fileChars new.chars⟩]⟩

section Between

variable {old new p : Path}

theorem betweenFits {rest : List Char} (goesOn : p.chars = old.chars ++ rest) :
    (between old new).toServer p.uri = String.ofList (fileChars (new.chars ++ rest)) := by
  have fits := Rule.toServerFits ⟨fileChars old.chars, fileChars new.chars⟩ (percentEncode rest)
  rw [fileUri, goesOn, toServerPassed, String.toList_ofList, fileAppend, fileAppend]
  exact congrArg String.ofList fits

theorem betweenMisses (misses : ¬ old.chars <+: p.chars) :
    (between old new).toServer p.uri = p.uri := by
  rw [toServerPassed, fileUri, String.toList_ofList]
  refine congrArg String.ofList (passedNone fun r mem => ?_)
  rw [between, List.mem_singleton] at mem
  rw [mem]
  exact fun fits => misses (filePrefix.mp fits)

end Between

theorem absoluteUri (e : Surroundings) {path : String}
    (absolute : (Path.ofString path).isAbsolute = true) :
    Path.uriOf e path = .ok (Path.ofString path).uri := by
  have rooted : (Path.ofString path).root ≠ [] := by
    simpa [Path.isAbsolute, List.isEmpty_iff] using absolute
  have home : e.expandHome (Path.ofString path) = .ok (Path.ofString path) := by
    unfold Surroundings.expandHome
    split
    · rename_i none _
      exact absurd none rooted
    · rfl
  simp [Path.uriOf, home, Surroundings.absolute, Path.join, absolute, bind, Except.bind]

/- What becomes of the URIs of absolute paths where one directory is exchanged for another. -/
structure Carries (e : Surroundings) (old new : Path) (convert : String → String) : Prop where
  inside : ∀ (path : String) (rest : List (List Char)), Path.ofString path = old.under rest →
    ∃ u v, Path.uriOf e path = .ok u ∧ Path.uriOf e (new.under rest).text = .ok v ∧
      (convert u = v ↔ rest = [] ∨ (old.parts = [] ↔ new.parts = []))
  outside : ∀ path : String, (Path.ofString path).isAbsolute = true →
    (∀ rest, Path.ofString path ≠ old.under rest) →
    ∃ u, Path.uriOf e path = .ok u ∧
      (convert u = u ↔ old = new ∨ ¬ old.Beside (Path.ofString path))
  beside : ∀ path : String, old.Beside (Path.ofString path) →
    ∃ u rest, Path.uriOf e path = .ok u ∧ (Path.ofString path).chars = old.chars ++ rest ∧
      convert u = String.ofList (fileChars (new.chars ++ rest))

theorem properUri (e : Surroundings) {p : Path} (proper : p.Proper) :
    Path.uriOf e p.text = .ok p.uri := by
  have read : Path.ofString p.text = p := by
    rw [Path.ofString, Path.text, String.toList_ofList, proper.readBack]
  have absolute : (Path.ofString p.text).isAbsolute = true := by
    rw [read]
    exact proper.absolute
  rw [absoluteUri e absolute, read]

section Carried

variable {old new : Path} (first : old.Proper) (second : new.Proper)
include first second

theorem carriesBetween (e : Surroundings) : Carries e old new (between old new).toServer where
  inside path rest same := by
    have absolute : (Path.ofString path).isAbsolute = true := same ▸ first.absolute
    have below : (old.under rest).Proper := same ▸ Path.properOf absolute
    have there : (new.under rest).Proper := second.under below.below
    refine ⟨_, _, absoluteUri e absolute, properUri e there, ?_⟩
    rw [same, betweenFits below.underWritten, fileUri, fileSame, there.underWritten,
      List.append_right_inj, Path.behindSame]
  outside path absolute elsewhere := by
    have proper := Path.properOf absolute
    refine ⟨_, absoluteUri e absolute, ?_⟩
    rw [← Path.besideExactly first proper elsewhere]
    by_cases begins : old.chars <+: (Path.ofString path).chars
    · obtain ⟨rest, goesOn⟩ := begins
      rw [betweenFits goesOn.symm, fileUri, fileSame, ← goesOn, List.append_left_inj]
      have kept : new.chars = old.chars ↔ old = new :=
        ⟨fun same => first.charsInjective second same.symm, fun same => same ▸ rfl⟩
      simp [kept]
    · simp [betweenMisses begins, begins]
  beside path near := by
    have absolute := near.absolute first
    obtain ⟨rest, goesOn⟩ := near.begins first (Path.properOf absolute)
    exact ⟨_, rest, absoluteUri e absolute, goesOn.symm, betweenFits goesOn.symm⟩

end Carried

section Entry

variable (e : Surroundings) {client server : String}
  (own : (Path.ofString client).isAbsolute = true)
  (other : (Path.ofString server).isAbsolute = true)
include own other

theorem entryBetween : ofEntries e [[("client", client), ("server", server)]] =
    .ok (between (Path.ofString client) (Path.ofString server)) := by
  have rule : ruleOf e [("client", client), ("server", server)] =
      .ok ⟨fileChars (Path.ofString client).chars, fileChars (Path.ofString server).chars⟩ := by
    simp [ruleOf, entryValue, required, absoluteUri e own, absoluteUri e other, fileUri, bind,
      Except.bind]
  simp only [ofEntries, List.mapM_cons, List.mapM_nil, rule]
  rfl

/- A configured pair of directories is carried to the server by its rule, and back to the client. -/
theorem entryCarries :
    ∃ p, ofEntries e [[("client", client), ("server", server)]] = .ok p ∧
      Carries e (Path.ofString client) (Path.ofString server) p.toServer ∧
      Carries e (Path.ofString server) (Path.ofString client) p.toClient := by
  refine ⟨_, entryBetween e own other, ?_, ?_⟩
  · exact carriesBetween (Path.properOf own) (Path.properOf other) e
  · have back : (between (Path.ofString client) (Path.ofString server)).toClient =
        (between (Path.ofString server) (Path.ofString client)).toServer :=
      funext (toClientFlip _)
    rw [back]
    exact carriesBetween (Path.properOf other) (Path.properOf own) e

end Entry

def bare : Surroundings := ⟨⟨['/'], []⟩, [], []⟩

theorem entryCarriesSource :
    ∃ p u v, ofEntries bare [[("client", "/home/me/src"), ("server", "/work")]] = .ok p ∧
      Path.uriOf bare "/home/me/src/my x.cpp" = .ok u ∧
      Path.uriOf bare "/work/my x.cpp" = .ok v ∧ p.toServer u = v := by
  have own : (Path.ofString "/home/me/src").isAbsolute = true := by decide
  have other : (Path.ofString "/work").isAbsolute = true := by decide
  obtain ⟨p, made, there, _⟩ := entryCarries bare own other
  obtain ⟨u, v, known, moved, same⟩ :=
    there.inside "/home/me/src/my x.cpp" ["my x.cpp".toList] (by decide)
  exact ⟨p, u, v, made, known, moved, same.mpr (.inr (by decide))⟩

def Inside (e : Surroundings) (old new : Path) (convert : String → String) : Prop :=
  ∀ (path : String) (rest : List (List Char)), Path.ofString path = old.under rest →
    ∃ u v, Path.uriOf e path = .ok u ∧ Path.uriOf e (new.under rest).text = .ok v ∧ convert u = v

def Outside (e : Surroundings) (old : Path) (convert : String → String) : Prop :=
  ∀ path : String, (Path.ofString path).isAbsolute = true →
    (∀ rest, Path.ofString path ≠ old.under rest) →
    ∃ u, Path.uriOf e path = .ok u ∧ convert u = u

theorem directoriesMixed :
    ∃ p q, ofEntries bare [[("client", "/home/me/src"), ("server", "/work")]] = .ok p ∧
      ¬ Outside bare (Path.ofString "/home/me/src") p.toServer ∧
      ofEntries bare [[("client", "/src"), ("server", "/")]] = .ok q ∧
      ¬ Inside bare (Path.ofString "/src") (Path.ofString "/") q.toServer := by
  refine ⟨_, _, entryBetween bare (by decide) (by decide), ?_,
    entryBetween bare (by decide) (by decide), ?_⟩
  · intro still
    have absolute : (Path.ofString "/home/me/src2/x").isAbsolute = true := by decide
    have elsewhere : ∀ rest,
        Path.ofString "/home/me/src2/x" ≠ (Path.ofString "/home/me/src").under rest := by
      intro rest same
      have begins : (Path.ofString "/home/me/src").parts <+:
          (Path.ofString "/home/me/src2/x").parts := same ▸ List.prefix_append _ rest
      exact absurd begins (by decide)
    obtain ⟨u, known, kept⟩ := still _ absolute elsewhere
    rw [absoluteUri bare absolute] at known
    cases known
    have goesOn : (Path.ofString "/home/me/src2/x").chars =
        (Path.ofString "/home/me/src").chars ++ "2/x".toList := by decide
    rw [betweenFits goesOn, fileUri, fileSame] at kept
    exact absurd kept (by decide)
  · intro moves
    have absolute : (Path.ofString "/src/x").isAbsolute = true := by decide
    have there : (Path.ofString ((Path.ofString "/").under [['x']]).text).isAbsolute = true := by
      decide
    obtain ⟨u, v, known, moved, same⟩ := moves "/src/x" [['x']] (by decide)
    rw [absoluteUri bare absolute] at known
    rw [absoluteUri bare there] at moved
    cases known
    cases moved
    have goesOn : (Path.ofString "/src/x").chars =
        (Path.ofString "/src").chars ++ "/x".toList := by decide
    rw [betweenFits goesOn, fileUri, fileSame] at same
    exact absurd same (by decide)

end SymbolHierarchy.Paths
