import SymbolHierarchy.Proofs.Paths.Directories
import SymbolHierarchy.Proofs.Paths.Entries
import SymbolHierarchy.Proofs.Text.Strict
import SymbolHierarchy.Settings.File

/-! What becomes of a settings file. Every way of reading one is told by what stands at its path:
settings come of none at all, of an empty document and of a mapping that passes its check. All else
is told as a fault of the settings, but for a path that is too long, bytes that are no text, and
what a scalar's tag does not allow. The rules that pass are entries of texts, and may lack a side. -/
namespace SymbolHierarchy.Settings
open Text (encodeUtf8)

inductive Hollow : Document → Prop
  | falsehood : Hollow (.scalar (.bool false))
  | zero : Hollow (.scalar (.int 0))
  | fraction {negative : Bool} {exponent : Int} :
      Hollow (.scalar (.float (.finite negative 0 exponent)))
  | text : Hollow (.text "")
  | bytes : Hollow (.bytes [])
  | list : Hollow (.list [])
  | set : Hollow (.set [])

inductive Accepts : Document → Settings → Prop
  | null : Accepts .null {}
  | hollow {d : Document} (hollow : Hollow d) : Accepts d {}
  | mapping {entries : List (Document × Document)} {s : Settings}
      (valid : check (.mapping entries) = .ok s) : Accepts (.mapping entries) s

inductive Refuses (path : String) : Document → SettingsFault → Prop
  | stray {d : Document} (some : d ≠ .null) (full : ¬ Hollow d)
      (other : ∀ entries, d ≠ .mapping entries) : Refuses path d (.notMapping path)
  | invalid {entries : List (Document × Document)} {report : Schema.Report}
      (bad : check (.mapping entries) = .error report) :
      Refuses path (.mapping entries) (.invalid path report)

section Documents

variable {path : String} {d : Document} {s : Settings} {r : SettingsFault}

theorem emptyCases (empty : d.isEmpty = true) : d = .null ∨ d = .mapping [] ∨ Hollow d := by
  unfold Document.isEmpty at empty
  split at empty
  · exact .inl rfl
  · exact .inr (.inr .falsehood)
  · exact .inr (.inr .zero)
  · exact .inr (.inr .text)
  · exact .inr (.inr .fraction)
  · exact .inr (.inr (List.isEmpty_iff.mp empty ▸ .bytes))
  · exact .inr (.inr (List.isEmpty_iff.mp empty ▸ .list))
  · exact .inr (.inl (List.isEmpty_iff.mp empty ▸ rfl))
  · exact .inr (.inr (List.isEmpty_iff.mp empty ▸ .set))
  · cases empty

theorem hollowEmpty (hollow : Hollow d) : d.isEmpty = true := by
  cases hollow <;> rfl

theorem checkNothing : check (.mapping []) = .ok {} := rfl

theorem mappingRead (entries : List (Document × Document)) :
    ofDocument path (.mapping entries) =
      match check (.mapping entries) with
      | .ok s => .ok s
      | .error report => .error (.settings (.invalid path report)) := by
  cases entries with
  | nil => rw [checkNothing]; rfl
  | cons first rest => rfl

theorem acceptsRead (accepts : Accepts d s) : ofDocument path d = .ok s := by
  cases accepts with
  | null => rfl
  | hollow hollow =>
    unfold ofDocument
    rw [if_pos (hollowEmpty hollow)]
  | mapping valid => rw [mappingRead, valid]

theorem refusesRead (refuses : Refuses path d r) : ofDocument path d = .error (.settings r) := by
  cases refuses with
  | invalid bad => rw [mappingRead, bad]
  | stray some full other =>
    have filled : ¬ d.isEmpty = true := fun empty => by
      rcases emptyCases empty with null | bare | hollow
      · exact some null
      · exact other [] bare
      · exact full hollow
    unfold ofDocument
    rw [if_neg filled]
    split
    · exact absurd rfl (other _)
    · rfl

theorem documentSettled (path : String) (d : Document) :
    (∃ s, Accepts d s) ∨ ∃ r, Refuses path d r := by
  by_cases mapping : ∃ entries, d = .mapping entries
  · obtain ⟨entries, rfl⟩ := mapping
    cases checked : check (.mapping entries) with
    | ok s => exact .inl ⟨s, .mapping checked⟩
    | error report => exact .inr ⟨_, .invalid checked⟩
  · by_cases null : d = .null
    · exact .inl ⟨{}, null ▸ .null⟩
    · by_cases hollow : Hollow d
      · exact .inl ⟨{}, .hollow hollow⟩
      · exact .inr ⟨_, .stray null hollow fun entries same => mapping ⟨entries, same⟩⟩

end Documents

inductive Comes (f : Files) (e : Surroundings) (path : Path) :
    Except Fault Settings → Prop
  | missing {a : Absence} (absent : f.find e path = .error a) (short : a ≠ .tooLong) :
      Comes f e path (.ok {})
  | tooLong (absent : f.find e path = .error .tooLong) :
      Comes f e path (.error (.raised (.nameTooLong path.text)))
  | directory (found : f.find e path = .ok .directory) : Comes f e path
      (.error (.settings (.unreadable path.text (Raised.isDirectory path.text).message)))
  | undecodable {bytes : List UInt8} (found : f.find e path = .ok (.file bytes))
      (strange : ∀ cs, bytes ≠ encodeUtf8 cs) : Comes f e path (.error (.raised .undecodable))
  | malformed {cs : List Char} (found : f.find e path = .ok (.file (encodeUtf8 cs)))
      (reads : Yaml.read (Text.unifyLines cs) = .error .malformed) : Comes f e path
      (.error (.settings (.unreadable path.text "the text is malformed")))
  | flawed {cs : List Char} {flaw : Yaml.Flaw}
      (found : f.find e path = .ok (.file (encodeUtf8 cs)))
      (reads : Yaml.read (Text.unifyLines cs) = .error flaw) (other : flaw ≠ .malformed) :
      Comes f e path (.error (.raised (.content flaw)))
  | accepted {cs : List Char} {d : Document} {s : Settings}
      (found : f.find e path = .ok (.file (encodeUtf8 cs)))
      (reads : Yaml.read (Text.unifyLines cs) = .ok d) (accepts : Accepts d s) :
      Comes f e path (.ok s)
  | refused {cs : List Char} {d : Document} {r : SettingsFault}
      (found : f.find e path = .ok (.file (encodeUtf8 cs)))
      (reads : Yaml.read (Text.unifyLines cs) = .ok d) (refuses : Refuses path.text d r) :
      Comes f e path (.error (.settings r))

section Files

variable {f : Files} {e : Surroundings} {root : Path} {explicit : Option Path}
  {out : Except Fault Settings} {path : Path}

theorem readAbsent {a : Absence} (absent : f.find e (fileOf e root explicit) = .error a) :
    load f e root explicit = if a = .tooLong
      then .error (.raised (.nameTooLong (fileOf e root explicit).text)) else .ok {} := by
  cases a <;> simp [load, Files.standing, absent]

theorem readDirectory (found : f.find e (fileOf e root explicit) = .ok .directory) :
    load f e root explicit = .error (.settings (.unreadable (fileOf e root explicit).text
      (Raised.isDirectory (fileOf e root explicit).text).message)) := by
  simp [load, Files.standing, Files.read, found]

theorem readFile {bytes : List UInt8}
    (found : f.find e (fileOf e root explicit) = .ok (.file bytes)) :
    load f e root explicit = (documentOf (fileOf e root explicit).text bytes >>=
      ofDocument (fileOf e root explicit).text) := by
  simp only [load, Files.standing, Files.read, found]

theorem documentStrange {bytes : List UInt8} (strange : ∀ cs, bytes ≠ encodeUtf8 cs)
    (path : String) : documentOf path bytes = .error (.raised .undecodable) := by
  unfold documentOf
  cases read : Text.decodeUtf8? bytes with
  | none => rfl
  | some cs => exact absurd (Text.strictExactly.mp read) (strange cs)

theorem documentText (cs : List Char) (path : String) :
    documentOf path (encodeUtf8 cs) = (Yaml.read (Text.unifyLines cs)).mapError fun flaw =>
      if flaw = .malformed then .settings (.unreadable path "the text is malformed")
      else .raised (.content flaw) := by
  simp only [documentOf, Text.strictText]
  cases Yaml.read (Text.unifyLines cs) with
  | ok d => rfl
  | error flaw => cases flaw <;> rfl

theorem comesRead (comes : Comes f e (fileOf e root explicit) out) :
    load f e root explicit = out := by
  cases comes with
  | missing absent short => rw [readAbsent absent, if_neg short]
  | tooLong absent => rw [readAbsent absent, if_pos rfl]
  | directory found => exact readDirectory found
  | undecodable found strange => rw [readFile found, documentStrange strange]; rfl
  | malformed found reads => rw [readFile found, documentText, reads]; rfl
  | flawed found reads other =>
    rw [readFile found, documentText, reads]
    simp only [Except.mapError, if_neg other]
    rfl
  | accepted found reads accepts =>
    rw [readFile found, documentText, reads]
    simp only [Except.mapError, bind, Except.bind, acceptsRead accepts]
  | refused found reads refuses =>
    rw [readFile found, documentText, reads]
    simp only [Except.mapError, bind, Except.bind, refusesRead refuses]

theorem comesSome (f : Files) (e : Surroundings) (path : Path) : ∃ out, Comes f e path out := by
  cases found : f.find e path with
  | error a =>
    by_cases long : a = .tooLong
    · exact ⟨_, .tooLong (long ▸ found)⟩
    · exact ⟨_, .missing found long⟩
  | ok entry =>
    cases entry with
    | directory => exact ⟨_, .directory found⟩
    | file bytes =>
      by_cases strange : ∀ cs, bytes ≠ encodeUtf8 cs
      · exact ⟨_, .undecodable found strange⟩
      · obtain ⟨cs, text⟩ := Classical.not_forall.mp strange
        cases Classical.not_not.mp text
        cases reads : Yaml.read (Text.unifyLines cs) with
        | error flaw =>
          by_cases other : flaw = .malformed
          · exact ⟨_, .malformed found (other ▸ reads)⟩
          · exact ⟨_, .flawed found reads other⟩
        | ok d =>
          rcases documentSettled path.text d with ⟨s, accepts⟩ | ⟨r, refuses⟩
          · exact ⟨_, .accepted found reads accepts⟩
          · exact ⟨_, .refused found reads refuses⟩

theorem comesExactly :
    load f e root explicit = out ↔ Comes f e (fileOf e root explicit) out := by
  refine ⟨?_, comesRead⟩
  rintro rfl
  obtain ⟨out, comes⟩ := comesSome f e (fileOf e root explicit)
  rwa [comesRead comes]

/- A path that can be looked up, and a file there whose bytes are a text that is read, or breaks the
grammar. -/
structure Legible (f : Files) (e : Surroundings) (path : Path) : Prop where
  short : f.find e path ≠ .error .tooLong
  text : ∀ bytes, f.find e path = .ok (.file bytes) → ∃ cs, bytes = encodeUtf8 cs ∧
    ∀ flaw, Yaml.read (Text.unifyLines cs) = .error flaw → flaw = .malformed

def Told (out : Except Fault Settings) : Prop :=
  (∃ s, out = .ok s) ∨ ∃ r, out = .error (.settings r)

theorem raisedUntold (r : Raised) : ¬ Told (.error (.raised r)) := by
  rintro (⟨_, told⟩ | ⟨_, told⟩) <;> cases told

theorem codeSame {cs ds : List Char} (same : encodeUtf8 cs = encodeUtf8 ds) : cs = ds := by
  have read := Text.strictText cs
  rw [same, Text.strictText] at read
  exact (Option.some.inj read).symm

theorem legibleAbsent {a : Absence} (absent : f.find e path = .error a) (short : a ≠ .tooLong) :
    Legible f e path where
  short long := short (Except.error.inj (absent.symm.trans long))
  text bytes found := by
    rw [absent] at found
    cases found

theorem legibleDirectory (found : f.find e path = .ok .directory) : Legible f e path where
  short long := by
    rw [found] at long
    cases long
  text bytes other := by
    rw [found] at other
    cases other

theorem legibleText {cs : List Char} (found : f.find e path = .ok (.file (encodeUtf8 cs))) :
    Legible f e path ↔
      ∀ flaw, Yaml.read (Text.unifyLines cs) = .error flaw → flaw = .malformed := by
  constructor
  · intro legible
    obtain ⟨ds, same, fine⟩ := legible.text _ found
    cases codeSame same
    exact fine
  · intro fine
    refine ⟨by simp [found], fun bytes other => ⟨cs, ?_, fine⟩⟩
    rw [found] at other
    cases other
    rfl

theorem toldExactly (comes : Comes f e path out) : Told out ↔ Legible f e path := by
  cases comes with
  | missing absent short => exact ⟨fun _ => legibleAbsent absent short, fun _ => .inl ⟨_, rfl⟩⟩
  | tooLong absent =>
    exact ⟨fun told => (raisedUntold _ told).elim, fun legible => (legible.short absent).elim⟩
  | directory found => exact ⟨fun _ => legibleDirectory found, fun _ => .inr ⟨_, rfl⟩⟩
  | undecodable found strange =>
    refine ⟨fun told => (raisedUntold _ told).elim, fun legible => ?_⟩
    obtain ⟨cs, same, _⟩ := legible.text _ found
    exact absurd same (strange cs)
  | malformed found reads =>
    rw [legibleText found, reads]
    exact ⟨fun _ _ flaw => (Except.error.inj flaw).symm, fun _ => .inr ⟨_, rfl⟩⟩
  | flawed found reads other =>
    rw [legibleText found, reads]
    exact ⟨fun told => (raisedUntold _ told).elim, fun fine => absurd (fine _ rfl) other⟩
  | accepted found reads accepts =>
    rw [legibleText found, reads]
    exact ⟨fun _ _ => nofun, fun _ => .inl ⟨_, rfl⟩⟩
  | refused found reads refuses =>
    rw [legibleText found, reads]
    exact ⟨fun _ _ => nofun, fun _ => .inr ⟨_, rfl⟩⟩

end Files

/- What is told of a settings file: how each reading comes out, when it ends in settings or in a
fault of them, and when the rules that it read are complete. -/
structure Reported (f : Files) (e : Surroundings) (root : Path) (explicit : Option Path) : Prop where
  comes : ∀ out, load f e root explicit = out ↔ Comes f e (fileOf e root explicit) out
  told : Told (load f e root explicit) ↔ Legible f e (fileOf e root explicit)
  rules : ∀ s, load f e root explicit = .ok s →
    (∀ entry ∈ s.rules, Paths.Homely e entry) →
    ((∃ p, Paths.ofEntries e s.rules = .ok p) ↔ ∀ entry ∈ s.rules, Paths.Complete entry) ∧
    ∀ r, Paths.ofEntries e s.rules = .error r → ∃ key ∈ Paths.sides, r = .missingKey key

def holding (bytes : List UInt8) : Files := ⟨[(ownFile.parts, .file bytes)]⟩

def clientOnly : List (Document × Document) :=
  [(.text "path_conversion_rules", .list [.mapping [(.text "client", .text "/a")]])]

end SymbolHierarchy.Settings
