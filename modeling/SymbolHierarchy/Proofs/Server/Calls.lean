import SymbolHierarchy.Server.Connection
import Mathlib.Data.List.Basic

/-! What each use of a connection asks of its clients. Calls are noted as they are made, with their
answers, and each operation has one relation that says all it can do to the connection and to the
calls so far. -/
namespace SymbolHierarchy.Server

def Call.isCreate : Call → Bool
  | .create _ _ => true
  | _ => false

def Call.isStop : Call → Bool
  | .stop => true
  | _ => false

structure Entry where
  client : Nat
  call : Call
  answer : Except Raised Value

def noted {σ : Type} (client : Client σ) : Client (σ × List Entry) := fun n call s =>
  ((client n call s.1).1, (client n call s.1).2, s.2 ++ [⟨n, call, (client n call s.1).1⟩])

theorem notedCall {σ : Type} (client : Client σ) (n : Nat) (call : Call) (s : σ)
    (log : List Entry) : noted client n call (s, log) =
      ((client n call s).1, (client n call s).2, log ++ [⟨n, call, (client n call s).1⟩]) := rfl

def Busy (n : Nat) (log : List Entry) : Prop :=
  ∀ e ∈ log, e.client = n ∧ e.call.isCreate = false ∧ e.call.isStop = false

def creations (n : Nat) (log : List Entry) : Nat :=
  log.countP fun e => e.client == n && e.call.isCreate

def stops (n : Nat) (log : List Entry) : Nat :=
  log.countP fun e => e.client == n && e.call.isStop

/- From the states in `P` on, clients can always be created and told that they are introduced; any
other call may fail. -/
structure Steady {σ : Type} (client : Client σ) (P : σ → Prop) : Prop where
  keeps : ∀ n call s, P s → P (client n call s).2
  creates : ∀ n name version s, P s → ∃ v, (client n (.create name version) s).1 = .ok v
  introduces : ∀ n s, P s → ∃ v, (client n .introduced s).1 = .ok v

section Log

variable {n m : Nat} {front back log : List Entry} {call : Call} {answer : Except Raised Value}

@[simp] theorem creationsAppend :
    creations n (front ++ back) = creations n front + creations n back := by
  simp [creations]

@[simp] theorem stopsAppend : stops n (front ++ back) = stops n front + stops n back := by
  simp [stops]

@[simp] theorem creationsOne : creations n [⟨m, call, answer⟩] =
    if m = n ∧ call.isCreate = true then 1 else 0 := by
  simp [creations, List.countP_cons]

@[simp] theorem stopsOne : stops n [⟨m, call, answer⟩] =
    if m = n ∧ call.isStop = true then 1 else 0 := by
  simp [stops, List.countP_cons]

theorem busyCreations (busy : Busy m log) : creations n log = 0 := by
  refine List.countP_eq_zero.mpr fun e mem => ?_
  simp [(busy e mem).2.1]

theorem busyStops (busy : Busy m log) : stops n log = 0 := by
  refine List.countP_eq_zero.mpr fun e mem => ?_
  simp [(busy e mem).2.2]

theorem busyNil : Busy n [] := by simp [Busy]

theorem busyOne (create : call.isCreate = false) (stop : call.isStop = false) :
    Busy n [⟨n, call, answer⟩] := by
  simp [Busy, create, stop]

theorem Busy.append (first : Busy n front) (second : Busy n back) : Busy n (front ++ back) := by
  intro e mem
  exact (List.mem_append.mp mem).elim (first e) (second e)

end Log

namespace Connection

variable {σ : Type} {client : Client σ} {P : σ → Prop} {p : Plan} {c c' : Connection} {s s' : σ}
  {log log' : List Entry} {r : Except Fault Unit} {told : Except Fault Json} {method : String}
  {params : Json}

/- What a handshake asks of a client, and what comes of it: that of the first call that fails, or
the failure to say what the client is introduced with. -/
inductive Shaken (p : Plan) (n : Nat) : Except Raised Value → List Entry → Prop
  | unlaunched {cause} : Shaken p n (.error cause) [⟨n, p.launch, .error cause⟩]
  | unsaid {v cause} (failed : p.introduction = .error cause) :
      Shaken p n (.error cause) [⟨n, p.launch, .ok v⟩]
  | introduced {v i answer} (said : p.introduction = .ok i) :
      Shaken p n answer [⟨n, p.launch, .ok v⟩, ⟨n, .introduce i, answer⟩]

theorem shakenBusy {n : Nat} {answer : Except Raised Value} {calls : List Entry}
    (shaken : Shaken p n answer calls) : Busy n calls := by
  cases shaken with
  | unlaunched => exact busyOne rfl rfl
  | unsaid => exact busyOne rfl rfl
  | @introduced v i answer said =>
    exact (busyOne rfl rfl : Busy n [⟨n, p.launch, .ok v⟩]).append
      (busyOne rfl rfl : Busy n [⟨n, .introduce i, answer⟩])

theorem handshakeShaken (steady : Steady client P) (fits : P s) (n : Nat) (log : List Entry) :
    ∃ calls answer s', Shaken p n answer calls ∧ P s' ∧
      handshake (noted client) p n (s, log) = (answer, s', log ++ calls) := by
  have kept := steady.keeps n p.launch s fits
  cases launched : (client n p.launch s).1 with
  | error cause =>
    refine ⟨_, .error cause, _, .unlaunched, kept, ?_⟩
    simp [handshake, notedCall, launched]
  | ok v =>
    cases said : p.introduction with
    | error cause =>
      refine ⟨_, .error cause, _, .unsaid (v := v) said, kept, ?_⟩
      simp [handshake, notedCall, launched, said]
    | ok i =>
      refine ⟨_, (client n (.introduce i) (client n p.launch s).2).1, _, .introduced (v := v) said,
        steady.keeps n (.introduce i) _ kept, ?_⟩
      simp [handshake, notedCall, launched, said]

inductive Begun (p : Plan) (c : Connection) (log : List Entry) :
    Except Fault Unit → Connection → List Entry → Prop
  | running {n} (held : c.held = some n) : Begun p c log (.ok ()) c log
  | failed {calls made cause answer} (idle : c.held = none)
      (shaken : Shaken p c.created (.error cause) calls) :
      Begun p c log (.error (.backend "initialize" (some cause)))
        { held := none, created := c.created + 1 }
        (log ++ ([⟨c.created, .create "symtree" "0.1.0", made⟩] ++ calls ++
          [⟨c.created, .stop, answer⟩]))
  | started {body made} (idle : c.held = none) (busy : Busy c.created body) :
      Begun p c log (.ok ()) { held := some c.created, created := c.created + 1 }
        (log ++ ([⟨c.created, .create "symtree" "0.1.0", made⟩] ++ body))

theorem startBegun (steady : Steady client P) (fits : P s)
    (run : start (noted client) p c (s, log) = (r, c', s', log')) :
    Begun p c log r c' log' ∧ P s' := by
  cases held : c.held with
  | some n =>
    have same : start (noted client) p c (s, log) = (.ok (), c, s, log) := by simp [start, held]
    cases same.symm.trans run
    exact ⟨.running held, fits⟩
  | none =>
    obtain ⟨v, made⟩ := steady.creates c.created "symtree" "0.1.0" s fits
    have fits' := steady.keeps c.created (.create "symtree" "0.1.0") s fits
    obtain ⟨calls, answer, t, shaken, kept, ends⟩ := handshakeShaken (p := p) steady fits'
      c.created (log ++ [⟨c.created, .create "symtree" "0.1.0", .ok v⟩])
    simp only [start, held, notedCall, made, ends] at run
    cases answer with
    | error cause =>
      cases run
      refine ⟨?_, steady.keeps _ _ _ kept⟩
      simpa [notedCall] using Begun.failed held shaken
    | ok w =>
      obtain ⟨u, told⟩ := steady.introduces c.created t kept
      have busy : Busy c.created (calls ++ [⟨c.created, .introduced, .ok u⟩]) :=
        (shakenBusy shaken).append (busyOne rfl rfl)
      simp only [notedCall, told] at run
      cases run
      refine ⟨?_, steady.keeps _ _ _ kept⟩
      simpa using Begun.started held busy

inductive Ended (c : Connection) (log : List Entry) :
    Except Fault Unit → Connection → List Entry → Prop
  | idle (idle : c.held = none) : Ended c log (.ok ()) c log
  | released {n body r answer} (held : c.held = some n) (busy : Busy n body) :
      Ended c log r { c with held := none } (log ++ (body ++ [⟨n, .stop, answer⟩]))

theorem farewellNoted (steady : Steady client P) (fits : P s) (n : Nat) (log : List Entry) :
    ∃ body s', Busy n body ∧ P s' ∧ farewell (noted client) n (s, log) = (s', log ++ body) := by
  have kept := steady.keeps n .shutdown s fits
  cases first : (client n .shutdown s).1 with
  | error r =>
    refine ⟨[⟨n, .shutdown, .error r⟩], _, busyOne rfl rfl, kept, ?_⟩
    simp [farewell, notedCall, first]
  | ok v =>
    have busy : Busy n ([⟨n, .shutdown, .ok v⟩] ++
        [⟨n, .exit, (client n .exit (client n .shutdown s).2).1⟩]) :=
      (busyOne rfl rfl).append (busyOne rfl rfl)
    refine ⟨_, _, busy, steady.keeps n .exit _ kept, ?_⟩
    simp [farewell, notedCall, first]

theorem stopEnded (steady : Steady client P) (fits : P s)
    (run : stop (noted client) c (s, log) = (r, c', s', log')) :
    Ended c log r c' log' ∧ P s' := by
  cases held : c.held with
  | none =>
    simp only [stop, held] at run
    cases run
    exact ⟨.idle held, fits⟩
  | some n =>
    obtain ⟨body, t, busy, kept, left⟩ := farewellNoted steady fits n log
    simp only [stop, held, left, notedCall] at run
    cases run
    refine ⟨?_, steady.keeps n .stop t kept⟩
    simpa using Ended.released held busy

inductive Asked (c : Connection) (method : String) (params : Json) (log : List Entry) :
    Except Fault Json → List Entry → Prop
  | refused (idle : c.held = none) : Asked c method params log (.error (.notStarted method)) log
  | sent {n r answer} (held : c.held = some n) :
      Asked c method params log r (log ++ [⟨n, .request method params, answer⟩])

theorem requestAsked (steady : Steady client P) (fits : P s)
    (run : request (noted client) c method params (s, log) = (told, s', log')) :
    Asked c method params log told log' ∧ P s' := by
  cases held : c.held with
  | none =>
    simp only [request, held] at run
    cases run
    exact ⟨.refused held, fits⟩
  | some n =>
    have kept := steady.keeps n (.request method params) s fits
    cases answer : (client n (.request method params) s).1 with
    | ok v =>
      simp only [request, held, notedCall, answer] at run
      cases run
      exact ⟨.sent held, kept⟩
    | error r =>
      simp only [request, held, notedCall, answer] at run
      cases run
      exact ⟨.sent held, kept⟩

end Connection

end SymbolHierarchy.Server
