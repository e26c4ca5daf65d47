import SymbolHierarchy.Proofs.Paths.Firing

/-! The way back. Rules are tried in the same order both ways, so a URI that one rule rewrote is
given back by that rule, and is then still matched with the rules behind it. It comes back as it
was unless one of those takes it for a URI of the server. -/
namespace SymbolHierarchy.Paths

variable {p : Paths} {front back : List Rule} {r : Rule} {x : List Char}

theorem passedBack (servers : ((front ++ r :: back).map Rule.server).Pairwise Unlike) :
    passed ((front ++ r :: back).map Rule.flip) (r.server ++ x) =
      passed (back.map Rule.flip) (r.client ++ x) := by
  have before : ∀ q ∈ front.map Rule.flip, ¬ q.client <+: r.server ++ x := by
    intro q mem fits
    obtain ⟨own, inFront, rfl⟩ := List.mem_map.mp mem
    rw [List.map_append] at servers
    have unlike := (List.pairwise_append.mp servers).2.2 own.server (List.mem_map_of_mem inFront)
      r.server List.mem_cons_self
    exact unlikeBoth unlike fits (List.prefix_append _ _)
  rw [List.map_append, passedAppend, passedNone before, List.map_cons, passedCons]
  exact congrArg _ (Rule.toServerFits r.flip x)

/- The rules behind the one that rewrote a URI leave it as it is just when none of them fits: what
they write is unlike the prefix that it had. -/
theorem passedStill (clients : ((r :: back).map Rule.client).Pairwise Unlike) :
    passed (back.map Rule.flip) (r.client ++ x) = r.client ++ x ↔
      ∀ q ∈ back, ¬ q.server <+: r.client ++ x := by
  constructor
  · intro same
    rcases passedEither (back.map Rule.flip) (r.client ++ x) with none | ⟨q, mem, written⟩
    · exact fun q own => none q.flip (List.mem_map_of_mem own)
    · obtain ⟨own, behind, rfl⟩ := List.mem_map.mp mem
      rw [same] at written
      have unlike := (List.pairwise_cons.mp clients).1 own.client (List.mem_map_of_mem behind)
      exact absurd written fun fits => unlikeBoth unlike (List.prefix_append _ _) fits
  · intro none
    refine passedNone fun q mem => ?_
    obtain ⟨own, behind, rfl⟩ := List.mem_map.mp mem
    exact none own behind

/- A URI that one rule rewrites comes back just when no later rule has a server prefix of it. -/
theorem returnsExactly (p : Paths) (uri : String)
    (clients : (p.rules.map Rule.client).Pairwise Unlike)
    (servers : (p.rules.map Rule.server).Pairwise Unlike)
    (one : (firing p.rules uri.toList).length = 1) :
    ∃ front r back, p.rules = front ++ r :: back ∧ firing p.rules uri.toList = [r] ∧
      (p.toClient (p.toServer uri) = uri ↔ ∀ q ∈ back, ¬ q.server <+: uri.toList) := by
  obtain ⟨r, fires⟩ := List.length_eq_one_iff.mp one
  obtain ⟨front, back, x, split, before, same, after⟩ := firingFirst fires
  refine ⟨front, r, back, split, fires, ?_⟩
  have there : p.toServer uri = String.ofList (r.server ++ x) := by
    rw [toServerPassed, split, same]
    exact congrArg String.ofList (passedOne (same ▸ before) (firingNone.mp after))
  have home : p.toClient (p.toServer uri) =
      String.ofList (passed (back.map Rule.flip) (r.client ++ x)) := by
    rw [toClientFlip, toServerPassed, there, String.toList_ofList, flip, split]
    exact congrArg String.ofList (passedBack (split ▸ servers))
  have behind : ((r :: back).map Rule.client).Pairwise Unlike := by
    rw [split, List.map_append] at clients
    exact (List.pairwise_append.mp clients).2.1
  rw [home, same, ← passedStill behind, ← same, ← String.toList_inj, String.toList_ofList]

theorem returnsProject :
    (⟨[project, library]⟩ : Paths).toClient
        ((⟨[project, library]⟩ : Paths).toServer "file:///home/me/src/x/y.cpp") =
      "file:///home/me/src/x/y.cpp" := by
  have clients : ([project, library].map Rule.client).Pairwise Unlike := by decide
  have servers : ([project, library].map Rule.server).Pairwise Unlike := by decide
  have one : (firing [project, library] "file:///home/me/src/x/y.cpp".toList).length = 1 := by
    decide
  obtain ⟨front, r, back, split, _, exact⟩ := returnsExactly ⟨_⟩ _ clients servers one
  have strange : ∀ q ∈ [project, library], ¬ q.server <+: "file:///home/me/src/x/y.cpp".toList := by
    decide
  refine exact.mpr fun q behind => strange q ?_
  have mem : q ∈ front ++ r :: back := List.mem_append_right _ (List.mem_cons_of_mem _ behind)
  rwa [← split] at mem

def crossing : Paths :=
  ⟨[⟨"file:///a".toList, "file:///x".toList⟩, ⟨"file:///c".toList, "file:///a".toList⟩]⟩

theorem takenOnReturn :
    ¬ ∀ (p : Paths) (uri : String), (p.rules.map Rule.client).Pairwise Unlike →
        (p.rules.map Rule.server).Pairwise Unlike →
        (firing p.rules uri.toList).length = 1 → p.toClient (p.toServer uri) = uri := by
  intro returns
  have same := returns crossing "file:///a/f" (by decide) (by decide) (by decide)
  have other : crossing.toClient (crossing.toServer "file:///a/f") = "file:///c/f" := by decide
  rw [other] at same
  exact absurd same (by decide)

end SymbolHierarchy.Paths
