import Mathlib.Data.List.Perm.Basic
import SymbolHierarchy.Paths

/-! Which rules of a list rewrite a URI. A rule is matched with what the rules before it have made,
so what one rule makes may be taken up by a later one. Rules whose prefixes have nothing to do
with each other's do not meet: at most one of them rewrites a URI, and their order is free. -/
namespace SymbolHierarchy

def Unlike (a b : List Char) : Prop := ¬ a <+: b ∧ ¬ b <+: a

instance (a b : List Char) : Decidable (Unlike a b) :=
  inferInstanceAs (Decidable (¬ a <+: b ∧ ¬ b <+: a))

theorem unlikeBoth {a b u : List Char} (unlike : Unlike a b) (first : a <+: u)
    (second : b <+: u) : False :=
  (List.prefix_or_prefix_of_prefix first second).elim unlike.1 unlike.2

namespace Rule

def flip (r : Rule) : Rule := ⟨r.server, r.client⟩

/- No prefix of one rule, on either side, begins with one of the other. -/
def Apart (r q : Rule) : Prop :=
  ∀ a ∈ [r.client, r.server], ∀ b ∈ [q.client, q.server], Unlike a b

instance (r q : Rule) : Decidable (r.Apart q) :=
  inferInstanceAs
    (Decidable (∀ a ∈ [r.client, r.server], ∀ b ∈ [q.client, q.server], Unlike a b))

theorem Apart.symm {r q : Rule} (apart : r.Apart q) : q.Apart r :=
  fun b own a other => (apart a other b own).symm

theorem Apart.flip {r q : Rule} (apart : r.Apart q) : r.flip.Apart q.flip := by
  intro a own b other
  exact apart a (by simpa [Rule.flip, or_comm] using own) b
    (by simpa [Rule.flip, or_comm] using other)

section Apart

variable {r q : Rule} (apart : r.Apart q)
include apart

theorem Apart.clients : Unlike r.client q.client := apart _ (by simp) _ (by simp)

theorem Apart.onward : Unlike r.server q.client := apart _ (by simp) _ (by simp)

end Apart

@[simp] theorem toServerFits (r : Rule) (x : List Char) :
    r.toServer (r.client ++ x) = r.server ++ x := by
  simp [toServer, exchange]

theorem toServerMisses {r : Rule} {u : List Char} (misses : ¬ r.client <+: u) :
    r.toServer u = u := by
  simp [toServer, exchange, List.isPrefixOf_iff_prefix, misses]

end Rule

def passed (rules : List Rule) (u : List Char) : List Char :=
  rules.foldl (fun u r => r.toServer u) u

def firing : List Rule → List Char → List Rule
  | [], _ => []
  | r :: rest, u => if r.client.isPrefixOf u then r :: firing rest (r.toServer u) else firing rest u

section Passing

variable {r : Rule} {rules front back : List Rule} {u x : List Char}

theorem passedCons (r : Rule) (rest : List Rule) (u : List Char) :
    passed (r :: rest) u = passed rest (r.toServer u) := rfl

theorem passedAppend (front back : List Rule) (u : List Char) :
    passed (front ++ back) u = passed back (passed front u) := List.foldl_append

theorem firingFits (r : Rule) (rest : List Rule) (x : List Char) :
    firing (r :: rest) (r.client ++ x) = r :: firing rest (r.server ++ x) := by
  simp [firing]

theorem firingMisses (misses : ¬ r.client <+: u) : firing (r :: rules) u = firing rules u := by
  simp [firing, List.isPrefixOf_iff_prefix, misses]

theorem passedNone (none : ∀ r ∈ rules, ¬ r.client <+: u) : passed rules u = u := by
  induction rules with
  | nil => rfl
  | cons r rest ih =>
    rw [passedCons, Rule.toServerMisses (none r List.mem_cons_self)]
    exact ih fun q mem => none q (List.mem_cons_of_mem _ mem)

theorem firingNone : firing rules u = [] ↔ ∀ r ∈ rules, ¬ r.client <+: u := by
  induction rules with
  | nil => simp [firing]
  | cons r rest ih =>
    by_cases fits : r.client <+: u
    · simp [firing, List.isPrefixOf_iff_prefix, fits]
    · simp [firingMisses fits, ih, fits]

theorem firingFirst {rest : List Rule} (first : firing rules u = r :: rest) :
    ∃ front back x, rules = front ++ r :: back ∧ (∀ q ∈ front, ¬ q.client <+: u) ∧
      u = r.client ++ x ∧ firing back (r.server ++ x) = rest := by
  induction rules with
  | nil => simp [firing] at first
  | cons head tail ih =>
    by_cases fits : head.client <+: u
    · obtain ⟨x, rfl⟩ := fits
      rw [firingFits] at first
      cases first
      exact ⟨[], tail, x, rfl, by simp, rfl, rfl⟩
    · rw [firingMisses fits] at first
      obtain ⟨front, back, x, rfl, before, split, after⟩ := ih first
      refine ⟨head :: front, back, x, rfl, ?_, split, after⟩
      intro q mem
      rcases List.mem_cons.mp mem with rfl | later
      · exact fits
      · exact before q later

theorem passedEither (rules : List Rule) (u : List Char) :
    (∀ r ∈ rules, ¬ r.client <+: u) ∨ ∃ r ∈ rules, r.server <+: passed rules u := by
  induction rules generalizing u with
  | nil => exact .inl (by simp)
  | cons r rest ih =>
    rw [passedCons]
    by_cases fits : r.client <+: u
    · obtain ⟨x, rfl⟩ := fits
      rw [Rule.toServerFits]
      refine .inr ?_
      rcases ih (r.server ++ x) with none | ⟨q, mem, last⟩
      · exact ⟨r, List.mem_cons_self, by rw [passedNone none]; exact List.prefix_append _ _⟩
      · exact ⟨q, List.mem_cons_of_mem _ mem, last⟩
    · rw [Rule.toServerMisses fits]
      rcases ih u with none | ⟨q, mem, last⟩
      · exact .inl (List.forall_mem_cons.mpr ⟨fits, none⟩)
      · exact .inr ⟨q, List.mem_cons_of_mem _ mem, last⟩

theorem passedOne (before : ∀ q ∈ front, ¬ q.client <+: r.client ++ x)
    (after : ∀ q ∈ back, ¬ q.client <+: r.server ++ x) :
    passed (front ++ r :: back) (r.client ++ x) = r.server ++ x := by
  rw [passedAppend, passedNone before, passedCons, Rule.toServerFits, passedNone after]

theorem firingOne (before : ∀ q ∈ front, ¬ q.client <+: r.client ++ x)
    (after : ∀ q ∈ back, ¬ q.client <+: r.server ++ x) :
    firing (front ++ r :: back) (r.client ++ x) = [r] := by
  induction front with
  | nil => rw [List.nil_append, firingFits, firingNone.mpr after]
  | cons q rest ih =>
    obtain ⟨misses, others⟩ := List.forall_mem_cons.mp before
    rw [List.cons_append, firingMisses misses, ih others]

end Passing

namespace Paths

def flip (p : Paths) : Paths := ⟨p.rules.map Rule.flip⟩

theorem toClientFlip (p : Paths) (uri : String) : p.toClient uri = p.flip.toServer uri := by
  simp [toClient, toServer, clientChars, serverChars, flip, List.foldl_map, Rule.flip,
    Rule.toServer, Rule.toClient]

theorem toServerPassed (p : Paths) (uri : String) :
    p.toServer uri = String.ofList (passed p.rules uri.toList) := rfl

end Paths

/- What becomes of a URI that one rule at most rewrites: it is that rule's, or as before. -/
structure Settles (rules : List Rule) (convert : String → String) (uri : String) : Prop where
  once : (firing rules uri.toList).length ≤ 1
  one : ∀ r ∈ rules, ∀ x, uri.toList = r.client ++ x →
    firing rules uri.toList = [r] ∧ convert uri = String.ofList (r.server ++ x)
  none : (∀ r ∈ rules, ¬ r.client <+: uri.toList) →
    firing rules uri.toList = [] ∧ convert uri = uri

namespace Paths

variable {p q : Paths} {r : Rule}

/- A rule that fits a URI is the only one to rewrite it: those before it do not fit, as their
client prefixes are unlike its own, nor those after it, as theirs are unlike what it writes. -/
theorem apartOne (apart : p.rules.Pairwise Rule.Apart) (mem : r ∈ p.rules) (x : List Char) :
    firing p.rules (r.client ++ x) = [r] ∧ passed p.rules (r.client ++ x) = r.server ++ x := by
  obtain ⟨front, back, split⟩ := List.append_of_mem mem
  rw [split] at apart ⊢
  obtain ⟨_, behind, across⟩ := List.pairwise_append.mp apart
  have before : ∀ q ∈ front, ¬ q.client <+: r.client ++ x := fun q other fits =>
    unlikeBoth (across q other r List.mem_cons_self).clients fits (List.prefix_append _ _)
  have after : ∀ q ∈ back, ¬ q.client <+: r.server ++ x := fun q other fits =>
    unlikeBoth ((List.pairwise_cons.mp behind).1 q other).onward (List.prefix_append _ _) fits
  exact ⟨firingOne before after, passedOne before after⟩

theorem apartSettles (apart : p.rules.Pairwise Rule.Apart) (uri : String) :
    Settles p.rules p.toServer uri where
  once := by
    cases fires : firing p.rules uri.toList with
    | nil => simp
    | cons r rest =>
      obtain ⟨front, back, x, split, _, same, _⟩ := firingFirst fires
      have mem : r ∈ p.rules := by simp [split]
      rw [same, (apartOne apart mem x).1] at fires
      simp [← fires]
  one r mem x same := by
    rw [toServerPassed, same]
    obtain ⟨fires, made⟩ := apartOne apart mem x
    exact ⟨fires, congrArg String.ofList made⟩
  none misses := by
    rw [toServerPassed, passedNone misses]
    exact ⟨firingNone.mpr misses, String.ofList_toList⟩

theorem apartSame (apart : p.rules.Pairwise Rule.Apart) (perm : q.rules.Perm p.rules)
    (uri : String) : q.toServer uri = p.toServer uri := by
  have other : q.rules.Pairwise Rule.Apart :=
    apart.perm perm.symm fun apart => apart.symm
  by_cases fits : ∃ r ∈ p.rules, r.client <+: uri.toList
  · obtain ⟨r, mem, x, same⟩ := fits
    have mine := ((apartSettles other uri).one r (perm.mem_iff.mpr mem) x same.symm).2
    exact mine.trans ((apartSettles apart uri).one r mem x same.symm).2.symm
  · have misses : ∀ r ∈ p.rules, ¬ r.client <+: uri.toList := fun r mem fit => fits ⟨r, mem, fit⟩
    have mine := ((apartSettles other uri).none fun r mem => misses r (perm.mem_iff.mp mem)).2
    exact mine.trans ((apartSettles apart uri).none misses).2.symm

theorem apartFlip (apart : p.rules.Pairwise Rule.Apart) : p.flip.rules.Pairwise Rule.Apart :=
  List.pairwise_map.mpr (apart.imp Rule.Apart.flip)

/- Rules whose prefixes are all unlike rewrite a URI once at most, each way, in any order. -/
theorem orderFree (p : Paths) (apart : p.rules.Pairwise Rule.Apart) :
    (∀ uri, Settles p.rules p.toServer uri ∧ Settles p.flip.rules p.toClient uri) ∧
      ∀ q : Paths, q.rules.Perm p.rules →
        ∀ uri, q.toServer uri = p.toServer uri ∧ q.toClient uri = p.toClient uri := by
  have back := apartFlip apart
  have flipped : p.toClient = p.flip.toServer := funext (toClientFlip p)
  refine ⟨fun uri => ⟨apartSettles apart uri, flipped ▸ apartSettles back uri⟩, ?_⟩
  intro q perm uri
  refine ⟨apartSame apart perm uri, ?_⟩
  rw [toClientFlip, toClientFlip]
  exact apartSame back (perm.map Rule.flip) uri

def project : Rule := ⟨"file:///home/me/src".toList, "file:///work".toList⟩
def library : Rule := ⟨"file:///usr/include".toList, "file:///opt/include".toList⟩

theorem orderFreeMounts :
    [project, library].Pairwise Rule.Apart ∧
      (⟨[project, library]⟩ : Paths).toServer "file:///usr/include/stdio.h" =
        "file:///opt/include/stdio.h" ∧
      (⟨[library, project]⟩ : Paths).toServer "file:///usr/include/stdio.h" =
        "file:///opt/include/stdio.h" := by
  have apart : [project, library].Pairwise Rule.Apart := by decide
  obtain ⟨settles, free⟩ := orderFree ⟨[project, library]⟩ apart
  have sent := ((settles "file:///usr/include/stdio.h").1.one library (by simp) "/stdio.h".toList
    (by decide)).2
  have perm : [library, project].Perm [project, library] := .swap _ _ _
  exact ⟨apart, sent, ((free ⟨_⟩ perm _).1).trans sent⟩

end Paths
end SymbolHierarchy
