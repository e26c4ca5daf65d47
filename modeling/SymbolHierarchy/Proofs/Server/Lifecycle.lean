import SymbolHierarchy.Proofs.Server.Calls

/-! The clients of a connection over its whole life. A client is created by a start and stopped by
the stop that lets go of it, or by the start itself where its handshake fails; whatever its calls
answer, it is stopped once and never while it is held. -/
namespace SymbolHierarchy.Server

inductive Use
  | start
  | stop
  | request (method : String) (params : Json)

abbrev Result := Except Fault (Option Json)

def StartedLast (past : List (Use × Result)) : Prop :=
  ∃ earlier later, past = earlier ++ (.start, .ok none) :: later ∧ ∀ u ∈ later, u.1 ≠ .stop

theorem startedNil : ¬ StartedLast [] := by
  rintro ⟨earlier, later, split, _⟩
  simp at split

theorem startedSnoc {past : List (Use × Result)} {u : Use} {r : Result} :
    StartedLast (past ++ [(u, r)]) ↔
      (u = .start ∧ r = .ok none) ∨ (StartedLast past ∧ u ≠ .stop) := by
  constructor
  · rintro ⟨earlier, later, split, quiet⟩
    rcases List.eq_nil_or_concat' later with rfl | ⟨front, last, rfl⟩
    · have ends := List.append_inj_right' split rfl
      cases ends
      exact .inl ⟨rfl, rfl⟩
    · rw [← List.cons_append, ← List.append_assoc] at split
      have ends := List.append_inj_right' split rfl
      have begins := List.append_inj_left' split rfl
      cases ends
      exact .inr ⟨⟨earlier, front, begins, fun v mem => quiet v (by simp [mem])⟩,
        quiet (u, r) (by simp)⟩
  · rintro (⟨rfl, rfl⟩ | ⟨⟨earlier, later, rfl, quiet⟩, other⟩)
    · exact ⟨past, [], rfl, by simp⟩
    · refine ⟨earlier, later ++ [(u, r)], by simp, fun v mem => ?_⟩
      rcases List.mem_append.mp mem with old | last
      · exact quiet v old
      · cases List.mem_singleton.mp last
        exact other

structure Life (σ : Type) where
  connection : Connection := {}
  server : σ
  log : List Entry := []
  past : List (Use × Result) := []

namespace Life

variable {σ : Type} (client : Client σ) (plan : Plan)

def use (l : Life σ) : Use → Life σ
  | .start =>
    let (r, c, s) := l.connection.start (noted client) plan (l.server, l.log)
    ⟨c, s.1, s.2, l.past ++ [(.start, r.map fun _ => none)]⟩
  | .stop =>
    let (r, c, s) := l.connection.stop (noted client) (l.server, l.log)
    ⟨c, s.1, s.2, l.past ++ [(.stop, r.map fun _ => none)]⟩
  | .request method params =>
    let (r, s) := l.connection.request (noted client) method params (l.server, l.log)
    ⟨l.connection, s.1, s.2, l.past ++ [(.request method params, r.map some)]⟩

def after (l : Life σ) (uses : List Use) : Life σ := uses.foldl (use client plan) l

structure Tidy (l : Life σ) : Prop where
  running : l.connection.isRunning = true ↔ StartedLast l.past
  young : ∀ n, l.connection.held = some n → n < l.connection.created
  made : ∀ n, creations n l.log = if n < l.connection.created then 1 else 0
  ended : ∀ n, stops n l.log =
    if n < l.connection.created ∧ l.connection.held ≠ some n then 1 else 0

variable {client plan} {P : σ → Prop} {l : Life σ}

theorem startTidy (steady : Steady client P) (fits : P l.server) (tidy : l.Tidy) :
    (l.use client plan .start).Tidy ∧ P (l.use client plan .start).server := by
  rcases run : l.connection.start (noted client) plan (l.server, l.log) with ⟨r, c, s, log⟩
  obtain ⟨begun, kept⟩ := Connection.startBegun steady fits run
  simp only [use, run]
  refine ⟨?_, kept⟩
  cases begun with
  | running held =>
    refine ⟨?_, tidy.young, tidy.made, tidy.ended⟩
    simp [startedSnoc, Connection.isRunning, held, Except.map]
  | failed idle shaken =>
    have stopped : ¬ StartedLast l.past := by
      rw [← tidy.running]
      simp [Connection.isRunning, idle]
    have busy := Connection.shakenBusy shaken
    refine ⟨?_, by simp, fun n => ?_, fun n => ?_⟩
    · simp [startedSnoc, Connection.isRunning, stopped, Except.map]
    · have sofar := tidy.made n
      simp only [creationsAppend, creationsOne, busyCreations busy, sofar, Call.isCreate]
      grind
    · have sofar := tidy.ended n
      simp only [stopsAppend, stopsOne, busyStops busy, sofar, Call.isStop, idle]
      grind
  | started idle busy =>
    refine ⟨?_, ?_, fun n => ?_, fun n => ?_⟩
    · simp [startedSnoc, Connection.isRunning, Except.map]
    · simp
    · have sofar := tidy.made n
      simp only [creationsAppend, creationsOne, busyCreations busy, sofar, Call.isCreate]
      grind
    · have sofar := tidy.ended n
      simp only [stopsAppend, stopsOne, busyStops busy, sofar, Call.isStop, idle]
      grind

theorem stopTidy (steady : Steady client P) (fits : P l.server) (tidy : l.Tidy) :
    (l.use client plan .stop).Tidy ∧ P (l.use client plan .stop).server := by
  rcases run : l.connection.stop (noted client) (l.server, l.log) with ⟨r, c, s, log⟩
  obtain ⟨ended, kept⟩ := Connection.stopEnded steady fits run
  simp only [use, run]
  refine ⟨?_, kept⟩
  cases ended with
  | idle idle =>
    refine ⟨?_, tidy.young, tidy.made, tidy.ended⟩
    simp [startedSnoc, Connection.isRunning, idle]
  | @released m _ _ _ held busy =>
    have young := tidy.young m held
    refine ⟨?_, by simp, fun n => ?_, fun n => ?_⟩
    · simp [startedSnoc, Connection.isRunning]
    · have sofar := tidy.made n
      simp only [creationsAppend, creationsOne, busyCreations busy, sofar, Call.isCreate]
      grind
    · have sofar := tidy.ended n
      simp only [stopsAppend, stopsOne, busyStops busy, sofar, Call.isStop, held]
      grind

theorem requestTidy (steady : Steady client P) (fits : P l.server) (tidy : l.Tidy)
    (method : String) (params : Json) : (l.use client plan (.request method params)).Tidy ∧
      P (l.use client plan (.request method params)).server := by
  rcases run : l.connection.request (noted client) method params (l.server, l.log)
    with ⟨told, s, log⟩
  obtain ⟨asked, kept⟩ := Connection.requestAsked steady fits run
  have running : ∀ {r : Result}, l.connection.isRunning = true ↔
      StartedLast (l.past ++ [(.request method params, r)]) := by
    intro r
    simp [startedSnoc, tidy.running]
  simp only [use, run]
  refine ⟨?_, kept⟩
  cases asked with
  | refused idle => exact ⟨running, tidy.young, tidy.made, tidy.ended⟩
  | sent held =>
    refine ⟨running, tidy.young, fun n => ?_, fun n => ?_⟩
    · simp [tidy.made n, Call.isCreate]
    · simp [tidy.ended n, Call.isStop]

theorem afterTidy (plan : Plan) (steady : Steady client P) (uses : List Use) (fits : P l.server)
    (tidy : l.Tidy) : (l.after client plan uses).Tidy ∧ P (l.after client plan uses).server := by
  induction uses generalizing l with
  | nil => exact ⟨tidy, fits⟩
  | cons u rest ih =>
    have next : (l.use client plan u).Tidy ∧ P (l.use client plan u).server := by
      cases u with
      | start => exact startTidy steady fits tidy
      | stop => exact stopTidy steady fits tidy
      | request method params => exact requestTidy steady fits tidy method params
    exact ih next.2 next.1

theorem newTidy (s : σ) : Tidy { server := s } where
  running := by simp [Connection.isRunning, startedNil]
  young := by simp
  made := by simp [creations]
  ended := by simp [stops]

/- What is asked of a client whose start fails, and what is told of it: the failure of its
handshake, whatever the stop behind it answers. -/
def Failed (plan : Plan) (n : Nat) (f : Fault) (calls : List Entry) : Prop :=
  ∃ made shaken cause answer, Connection.Shaken plan n (.error cause) shaken ∧
    f = .backend "initialize" (some cause) ∧
    calls = [⟨n, .create "symtree" "0.1.0", made⟩] ++ shaken ++ [⟨n, .stop, answer⟩]

theorem startFailed (steady : Steady client P) (fits : P l.server) {f : Fault}
    (told : (l.use client plan .start).past = l.past ++ [(.start, .error f)]) :
    ∃ calls, Failed plan l.connection.created f calls ∧
      (l.use client plan .start).log = l.log ++ calls := by
  rcases run : l.connection.start (noted client) plan (l.server, l.log) with ⟨r, c, s, log⟩
  obtain ⟨begun, -⟩ := Connection.startBegun steady fits run
  simp only [use, run] at told ⊢
  cases begun with
  | running held => simp [Except.map] at told
  | started idle busy => simp [Except.map] at told
  | @failed calls made cause answer idle shaken =>
    have same : Fault.backend "initialize" (some cause) = f := by
      simpa [Except.map] using told
    exact ⟨_, ⟨made, calls, cause, answer, shaken, same.symm, rfl⟩, rfl⟩

/- How a connection stands between two uses, and what the next one can do. -/
structure Tended (client : Client σ) (plan : Plan) (l : Life σ) : Prop extends Tidy l where
  restarts : l.connection.isRunning = true →
    l.use client plan .start = { l with past := l.past ++ [(.start, .ok none)] }
  fails : ∀ f, (l.use client plan .start).past = l.past ++ [(.start, .error f)] →
    ∃ calls, Failed plan l.connection.created f calls ∧
      (l.use client plan .start).log = l.log ++ calls
  refuses : l.connection.isRunning = false → ∀ method params,
    l.use client plan (.request method params) =
      { l with past := l.past ++ [(.request method params, .error (.notStarted method))] }

theorem tidyTended (steady : Steady client P) (fits : P l.server) (tidy : l.Tidy) :
    Tended client plan l where
  toTidy := tidy
  restarts running := by
    obtain ⟨n, held⟩ := Option.isSome_iff_exists.mp running
    simp [use, Connection.start, held, Except.map]
  fails _ told := startFailed steady fits told
  refuses idle method params := by
    have held : l.connection.held = none := by simpa [Connection.isRunning] using idle
    simp [use, Connection.request, held, Except.map]

end Life

def Script.Admits (s : Script) : Prop :=
  "client" ∉ s.failures.map Prod.fst ∧ "initialized" ∉ s.failures.map Prod.fst

namespace Script

theorem takeFailureNames (name : String) (failures : List (String × List (Option String))) :
    (takeFailure name failures).2.map Prod.fst = failures.map Prod.fst := by
  induction failures with
  | nil => rfl
  | cons f rest ih =>
    obtain ⟨n, fs⟩ := f
    by_cases same : n = name
    · simp [takeFailure, same]
    · simp [takeFailure, same, ih]

theorem takeFailureAbsent {name : String} {failures : List (String × List (Option String))}
    (absent : name ∉ failures.map Prod.fst) : (takeFailure name failures).1 = none := by
  induction failures with
  | nil => rfl
  | cons f rest ih =>
    obtain ⟨n, fs⟩ := f
    simp only [List.map_cons, List.mem_cons, not_or] at absent
    simp [takeFailure, Ne.symm absent.1, ih absent.2]

theorem clientFailures (n : Nat) (call : Call) (s : Script) :
    (client n call s).2.failures = (takeFailure call.name s.failures).2 := by
  rcases taken : takeFailure call.name s.failures with ⟨_ | text, failures⟩
  · cases replies : s.replies <;> cases call <;> simp [client, reply, taken, replies]
  · simp [client, taken]

theorem clientAnswers {n : Nat} {call : Call} {s : Script}
    (absent : call.name ∉ s.failures.map Prod.fst) (plain : call.name ≠ "request") :
    ∃ v, (client n call s).1 = .ok v := by
  have none := takeFailureAbsent absent
  rcases taken : takeFailure call.name s.failures with ⟨failure, failures⟩
  rw [taken] at none
  cases none
  cases call <;> simp_all [client, Call.name]

theorem clientSteady : Steady client Admits where
  keeps n call s admits := by
    unfold Admits
    rw [clientFailures, takeFailureNames]
    exact admits
  creates n name version s admits := clientAnswers admits.1 (by simp [Call.name])
  introduces n s admits := clientAnswers admits.2 (by simp [Call.name])

end Script
end SymbolHierarchy.Server
