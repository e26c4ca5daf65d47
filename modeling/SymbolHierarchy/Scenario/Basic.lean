import SymbolHierarchy.Controller.Basic
import SymbolHierarchy.Notifier.Basic
import SymbolHierarchy.Number.Reading
import SymbolHierarchy.View.Item
import SymbolHierarchy.Node.Encode

/-! A controller played against prepared replies. Each request takes the next
reply of its hierarchy; a reply may be held back until its hold is released, and
those held back arrive in the order they were asked for. Listeners may close
their session, or change the subscriptions, while they are told. -/
namespace SymbolHierarchy.Scenario

structure Prepared where
  hold : Option String
  reply : String → Reply

inductive Duty
  | nothing
  | close
  | dispose
  | disposeOther (listener : String)
  | subscribeOther (listener : String)

structure Listener where
  number : Nat
  name : String
  duty : Duty

instance : BEq Listener := ⟨fun a b => a.number == b.number⟩

inductive Finish
  | opened (result : Except Fault (Option Node))
  | listed (result : Except Fault (List Node))
  | failed (fault : Fault)

inductive Event
  | requested (kind : Kind) (params : Json)
  | fired (listener : String)
  | finished (task : String) (finish : Finish)
  | navigated (location : Location) (preserveFocus : Bool)
  | activated (navigated : Bool)
  | shown (node : Node) (item : Item)
  | written (wire : Json)
  | raised (fault : Fault)

structure Held where
  hold : String
  kind : Kind
  ticket : Ticket
  reply : Reply

structure Stage where
  controller : Controller Reading := {}
  paths : Paths := {}
  window : Reading := .exact 500
  queues : PerKind (List Prepared) := ⟨[], []⟩
  held : List Held := []
  released : List String := []
  tasks : List ((Kind × Ticket) × String) := []
  bound : List (String × (Kind × Handle)) := []
  notifiers : PerKind (Notifier Listener) := ⟨{}, {}⟩
  disposers : List (String × (Kind × Listener)) := []
  subscribed : Nat := 0
  events : List Event := []

inductive Reference
  | root (kind : Kind) (path : List Nat)
  | named (name : String) (path : List Nat)

inductive Step
  | open (task : String) (kind : Kind) (position : DocumentPosition)
  | close (kind : Kind)
  | release (hold : String)
  | expand (task : String) (kind : Kind) (node : Reference)
  | children (task kind : String) (node : Option Reference)
  | bind (name : String) (node : Reference)
  | show (node : Reference) (icons : IconTheme)
  | wire (node : Reference)
  | subscribe (kind name : String) (duty : Duty)
  | dispose (name : String)
  | activate (kind : String) (node : Reference) (hasChildren : Bool) (now : Reading)
  | navigate (node : Reference)
  | raise (fault : Fault)

namespace Stage

def log (st : Stage) (e : Event) : Stage := { st with events := st.events ++ [e] }

def session (st : Stage) (k : Kind) : Session := st.controller.sessions.get k

def forest (st : Stage) (k : Kind) : Forest := (st.session k).forest

def resolve (st : Stage) : Reference → Option (Kind × Handle)
  | .root k path => do
    let r ← (st.session k).root
    some (k, ← (st.forest k).descend r path)
  | .named n path => do
    let (k, h) ← (st.bound.find? fun b => b.1 == n).map Prod.snd
    some (k, ← (st.forest k).descend h path)

def node? (st : Stage) (r : Reference) : Option Node := do
  let (k, h) ← st.resolve r
  (st.forest k).tree? h

/-! Listeners -/

def subscribe (st : Stage) (k : Kind) (name : String) (duty : Duty) : Stage :=
  let l : Listener := ⟨st.subscribed, name, duty⟩
  { st with
    subscribed := st.subscribed + 1,
    notifiers := st.notifiers.set k ((st.notifiers.get k).subscribe l),
    disposers := (name, (k, l)) :: st.disposers }

def dispose (st : Stage) (name : String) : Stage :=
  match st.disposers.find? fun d => d.1 == name with
  | some (_, k, l) => { st with notifiers := st.notifiers.set k ((st.notifiers.get k).dispose l) }
  | none => st

def steer (st : Stage) (a : Action Reading) : Stage × List Response :=
  let (c, rs) := st.controller.step st.paths (Reading.lapse st.window) a
  ({ st with controller := c }, rs)

def tell (closed : Kind → Stage → Stage) (k : Kind) (l : Listener) (st : Stage) :
    Stage × Option Empty :=
  let st := st.log (.fired l.name)
  (match l.duty with
   | .nothing => st
   | .close =>
     let active := (st.session k).isActive
     let (st, _) := st.steer (.close k)
     if active then closed k st else st
   | .dispose => { st with notifiers := st.notifiers.set k ((st.notifiers.get k).dispose l) }
   | .disposeOther n => st.dispose n
   | .subscribeOther n =>
     if st.disposers.any fun d => d.1 == n then st else st.subscribe k n .nothing, none)

def fireClosed (k : Kind) (st : Stage) : Stage :=
  ((st.notifiers.get k).fire (tell (fun _ st => st) k) st).1

/-- Tells the listeners of a session; one that closes it has them told again first. -/
def fire (k : Kind) (st : Stage) : Stage :=
  ((st.notifiers.get k).fire (tell fireClosed k) st).1

/-! Effects -/

def finishOf (st : Stage) (k : Kind) : Outcome → Finish
  | .opened r => .opened (r.map fun h => h.bind (st.forest k).tree?)
  | .listed r => .listed (r.map fun hs => hs.filterMap (st.forest k).tree?)

def taskOf (st : Stage) (k : Kind) (t : Ticket) : String :=
  ((st.tasks.find? fun e => e.1 == (k, t)).map Prod.snd).getD ""

def nothingPrepared (method : String) : Reply :=
  .error (.backend method (some (.lookup "no scripted response")))

def take (st : Stage) (k : Kind) : Option Prepared × Stage :=
  match st.queues.get k with
  | [] => (none, st)
  | p :: rest => (some p, { st with queues := st.queues.set k rest })

def respond : Nat → Stage → Response → Stage
  | _, st, .session k _ .announce => fire k st
  | _, st, .session k home (.finished t o) =>
    st.log (.finished (st.taskOf k t) (st.finishOf home o))
  | 0, st, .session k _ (.request _ params) => st.log (.requested k params)
  | depth + 1, st, .session k _ (.request t params) =>
    let st := st.log (.requested k params)
    let (p, st) := st.take k
    let deliver (r : Reply) (st : Stage) : Stage :=
      let (st, rs) := st.steer (.session k (.reply t r))
      rs.foldl (respond depth) st
    match p with
    | none => deliver (nothingPrepared k.name) st
    | some p =>
      let r := p.reply k.name
      match p.hold with
      | none => deliver r st
      | some h =>
        if st.released.contains h then deliver r st
        else { st with held := st.held ++ [⟨h, k, t, r⟩] }
  | _, st, .navigated l f => st.log (.navigated l f)
  | _, st, .activated b => st.log (.activated b)
  | _, st, .failed cause => st.log (.raised (.raised cause))

def requestDepth : Nat := 2

def act (st : Stage) (a : Action Reading) : Stage :=
  let (st, rs) := st.steer a
  rs.foldl (respond requestDepth) st

def start (st : Stage) (task : String) (k : Kind) (a : Action Reading) : Stage :=
  ({ st with tasks := ((k, (st.session k).issued), task) :: st.tasks }).act a

def release (st : Stage) (hold : String) : Stage :=
  let due := st.held.filter fun h => h.hold == hold
  let st := { st with held := st.held.filter (fun h => h.hold != hold),
                      released := hold :: st.released }
  due.foldl (fun st h => st.act (.session h.kind (.reply h.ticket h.reply))) st

def kindOf (name : String) : Except Fault Kind :=
  match Kind.ofName? name with
  | some k => .ok k
  | none => .error (.raised (.unknownKind name))

def listFor (st : Stage) (task : String) (k : Kind) : Option Reference → Stage
  | none => st.start task k (.session k (.children none))
  | some r =>
    match st.resolve r with
    | some (home, h) =>
      st.start task k (if home = k then .session k (.children (some h)) else .visit k h)
    | none => st

def step (st : Stage) : Step → Stage
  | .open task k p => st.start task k (.session k (.open p))
  | .close k => st.act (.close k)
  | .release h => st.release h
  | .expand task k r =>
    match st.resolve r with
    | some (_, h) => st.start task k (.session k (.expand h))
    | none => st
  | .children task name r =>
    match kindOf name with
    | .ok k => st.listFor task k r
    | .error f => st.log (.finished task (.failed f))
  | .bind name r =>
    match st.resolve r with
    | some p => { st with bound := (name, p) :: st.bound }
    | none => st
  | .show r icons =>
    match st.node? r with
    | some n =>
      match n.face.item icons with
      | .ok item => st.log (.shown n item)
      | .error e => st.log (.raised (.raised e))
    | none => st
  | .wire r =>
    match st.node? r with
    | some n => st.log (.written n.wire)
    | none => st
  | .subscribe name l duty =>
    match kindOf name with
    | .ok k => st.subscribe k l duty
    | .error f => st.log (.raised f)
  | .dispose n => st.dispose n
  | .activate name r hasChildren now =>
    match kindOf name, st.node? r with
    | .ok k, some n => st.act (.activate k n.symbol hasChildren now)
    | .error f, _ => st.log (.raised f)
    | _, none => st
  | .navigate r =>
    match st.node? r with
    | some n => st.act (.navigate n.symbol)
    | none => st
  | .raise f => st.log (.raised f)

def next (st : Stage) (s : Step) : Stage := ({ st with events := [] }).step s

end Stage
end SymbolHierarchy.Scenario
