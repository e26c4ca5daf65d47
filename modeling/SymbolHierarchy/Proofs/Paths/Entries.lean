import SymbolHierarchy.Paths

/-! Which configured entries make rules. An entry names a client by a URI or by a path, and a server
by a path. Where it does not, and the homes in its paths are known, a missing key is all that can be
told of it. -/
namespace SymbolHierarchy.Paths

structure Complete (entry : List (String × String)) : Prop where
  client : (∃ uri, entryValue "client_uri" entry = some uri ∧ uri ≠ "") ∨
    ∃ path, entryValue "client" entry = some path
  server : ∃ path, entryValue "server" entry = some path

def sides : List String := ["client", "server"]

def Homely (e : Surroundings) (entry : List (String × String)) : Prop :=
  ∀ key ∈ sides, ∀ path, entryValue key entry = some path →
    ∃ p, e.expandHome (Path.ofString path) = .ok p

variable {e : Surroundings} {entry : List (String × String)}
  {entries : List (List (String × String))} {key : String}

theorem sideMade (homely : Homely e entry) (side : key ∈ sides) {path : String}
    (given : entryValue key entry = some path) :
    ∃ uri, (required key entry >>= Path.uriOf e) = .ok uri := by
  obtain ⟨p, known⟩ := homely key side path given
  refine ⟨(e.absolute p).uri, ?_⟩
  simp only [required, given, Path.uriOf, known, bind, Except.bind]

theorem sideMissing (absent : entryValue key entry = none) :
    (required key entry >>= Path.uriOf e) = .error (.missingKey key) := by
  simp only [required, absent, bind, Except.bind]

def clientOf (e : Surroundings) (entry : List (String × String)) : Except Raised String :=
  match entryValue "client_uri" entry with
  | some u => if u.isEmpty then required "client" entry >>= Path.uriOf e else .ok u
  | none => required "client" entry >>= Path.uriOf e

theorem ruleSides (e : Surroundings) (entry : List (String × String)) :
    ruleOf e entry = (clientOf e entry >>= fun client =>
      (required "server" entry >>= Path.uriOf e) >>= fun server =>
        .ok ⟨client.toList, server.toList⟩) := by
  unfold ruleOf clientOf
  cases entryValue "client_uri" entry with
  | none => rfl
  | some uri =>
    dsimp only
    split <;> rfl

theorem clientGiven {uri : String} (given : entryValue "client_uri" entry = some uri)
    (some : uri ≠ "") : clientOf e entry = .ok uri := by
  have full : uri.isEmpty = false := by simpa using some
  simp only [clientOf, given, full]
  rfl

theorem clientRead (other : ∀ uri, entryValue "client_uri" entry = some uri → uri = "") :
    clientOf e entry = required "client" entry >>= Path.uriOf e := by
  unfold clientOf
  split
  · rename_i uri given
    rw [other uri given]
    rfl
  · rfl

inductive Outcome {α : Type} (complete : Prop) : Except Raised α → Prop
  | made (whole : complete) (a : α) : Outcome complete (.ok a)
  | missing (short : ¬ complete) {key : String} (side : key ∈ sides) :
      Outcome complete (.error (.missingKey key))

theorem Outcome.exactly {α : Type} {complete : Prop} {out : Except Raised α}
    (outcome : Outcome complete out) :
    ((∃ a, out = .ok a) ↔ complete) ∧ ∀ r, out = .error r → ∃ key ∈ sides, r = .missingKey key := by
  cases outcome with
  | made whole a => exact ⟨⟨fun _ => whole, fun _ => ⟨a, rfl⟩⟩, nofun⟩
  | @missing short key side =>
    refine ⟨⟨?_, fun whole => absurd whole short⟩, ?_⟩
    · rintro ⟨a, made⟩
      cases made
    · intro r told
      exact ⟨key, side, (Except.error.inj told).symm⟩

theorem clientOutcome (homely : Homely e entry) :
    Outcome ((∃ uri, entryValue "client_uri" entry = some uri ∧ uri ≠ "") ∨
      ∃ path, entryValue "client" entry = some path) (clientOf e entry) := by
  by_cases direct : ∃ uri, entryValue "client_uri" entry = some uri ∧ uri ≠ ""
  · obtain ⟨uri, given, some⟩ := direct
    rw [clientGiven given some]
    exact .made (.inl ⟨uri, given, some⟩) uri
  · have other : ∀ uri, entryValue "client_uri" entry = some uri → uri = "" := fun uri given =>
      Classical.byContradiction fun some => direct ⟨uri, given, some⟩
    rw [clientRead other]
    cases given : entryValue "client" entry with
    | none =>
      rw [sideMissing given]
      refine .missing ?_ (by decide)
      rintro (some | ⟨_, some⟩)
      · exact direct some
      · cases some
    | some path =>
      obtain ⟨uri, made⟩ := sideMade homely (by decide) given
      rw [made]
      exact .made (.inr ⟨path, rfl⟩) uri

theorem ruleOutcome (homely : Homely e entry) : Outcome (Complete entry) (ruleOf e entry) := by
  have client := clientOutcome homely
  rw [ruleSides]
  generalize clientOf e entry = told at client
  cases client with
  | missing short side => exact .missing (fun whole : Complete entry => short whole.client) side
  | made own uri =>
    cases given : entryValue "server" entry with
    | none =>
      have side : "server" ∈ sides := by decide
      rw [sideMissing given]
      refine .missing (fun whole : Complete entry => ?_) side
      obtain ⟨path, some⟩ := whole.server
      rw [given] at some
      cases some
    | some path =>
      obtain ⟨server, made⟩ := sideMade homely (by decide) given
      rw [made]
      exact .made ⟨own, path, given⟩ _

theorem rulesOutcome (homely : ∀ entry ∈ entries, Homely e entry) :
    Outcome (∀ entry ∈ entries, Complete entry) (entries.mapM (ruleOf e)) := by
  induction entries with
  | nil => exact .made (by simp) []
  | cons entry rest ih =>
    obtain ⟨own, others⟩ := List.forall_mem_cons.mp homely
    have first := ruleOutcome own
    have later := ih others
    rw [List.mapM_cons]
    generalize ruleOf e entry = told at first
    cases first with
    | missing short side => exact .missing (fun whole => short (whole entry (by simp))) side
    | made whole rule =>
      generalize rest.mapM (ruleOf e) = more at later
      cases later with
      | missing short side =>
        exact .missing (fun all => short fun q mem => all q (List.mem_cons_of_mem _ mem)) side
      | made wholes rules => exact .made (List.forall_mem_cons.mpr ⟨whole, wholes⟩) _

theorem entriesOutcome (homely : ∀ entry ∈ entries, Homely e entry) :
    Outcome (∀ entry ∈ entries, Complete entry) (ofEntries e entries) := by
  have rules := rulesOutcome homely
  have same : ofEntries e entries = (entries.mapM (ruleOf e)).map Paths.mk := by
    unfold ofEntries
    cases entries.mapM (ruleOf e) <;> rfl
  rw [same]
  generalize entries.mapM (ruleOf e) = told at rules
  cases rules with
  | made whole rules => exact .made whole _
  | missing short side => exact .missing short side

end SymbolHierarchy.Paths
