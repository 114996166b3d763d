import ToyServer.Lib.Runs
import ToyServer.Timer.TimingWheel

/-!
# `TimerImpl`: the timer tables of `System/Timer/TimerImpl.cpp`

The handlers run on the dispatcher thread, one message at a time:

* `onTimerAdd` makes a node, stores it in `_timers` and `_listenerMap` and adds it
  to the wheel;
* `onTimerCancel` drops one id, or every id of a listener, from the two maps and
  leaves the node in the wheel;
* `onTick` advances the wheel and calls `onTimerExpired` for every node that came out.

Listeners die on other threads while this goes on, so `weak_ptr::lock` and
`weak_ptr::expired` read the list of the listeners destroyed by then.  `TimerLoop`
is the dispatcher's view of a run: `tick` is the part of `OnTick` up to its loop,
`expire` one round of the loop, and between any two steps a listener may be destroyed.
-/

namespace ToyServer

/-! ## Messages and tables -/

/-- `TimerAddMessage` (`SystemMessages.h`); the listener pointers are nullable. -/
structure TimerAddMessage where
  timerId : TimerId
  logicTimerId : UInt32
  intervalMs : UInt32
  isInterval : Bool
  listener : Option ListenerId
  weakListener : Option ListenerId
  pParam : Nat
deriving DecidableEq, Repr

/-- `TimerCancelMessage`: by id, or (`timerId = 0`) all timers of a listener. -/
structure TimerCancelMessage where
  timerId : TimerId
  listener : Option ListenerId
deriving DecidableEq, Repr

/-- A call of `ITimerListener::OnTimer`, with the id of the timer it is made for. -/
structure OnTimerCall where
  id : TimerId
  listener : ListenerId
  logicTimerId : UInt32
  pParam : Nat
deriving DecidableEq, Repr

structure TimerImpl where
  /-- the nodes behind the shared pointers -/
  nodes : NodeRef → Node
  /-- nodes allocated so far -/
  nextRef : NodeRef
  timers : TimerId → Option NodeRef
  /-- the pairs of the multimap, in no particular order -/
  listenerMap : List (Option ListenerId × TimerId)
  wheel : TimingWheel
  currentTick : UInt32

def TICK_INTERVAL_MS : UInt32 := 10

def lock (destroyed : List ListenerId) : Option ListenerId → Option ListenerId
  | none => none
  | some l => if l ∈ destroyed then none else some l

def weakExpired (destroyed : List ListenerId) (p : Option ListenerId) : Bool :=
  (lock destroyed p).isNone

/-- Delay in ticks: `intervalMs / TICK_INTERVAL_MS`, at least one. -/
def delayTicks (intervalMs : UInt32) : UInt32 :=
  let ticks := intervalMs / TICK_INTERVAL_MS
  if ticks = 0 then 1 else ticks

namespace TimerImpl

def init : TimerImpl := ⟨fun _ => default, 0, fun _ => none, [], .empty, 0⟩

/-- The node `OnTimerAdd` builds.  `expired()` is asked first and `lock()` after
it; `destroyed` and `destroyed'` are what has died by then. -/
def makeNode (destroyed destroyed' : List ListenerId) (currentTick : UInt32)
    (msg : TimerAddMessage) : Node :=
  let ticks := delayTicks msg.intervalMs
  let useWeak := !weakExpired destroyed msg.weakListener
  { id := msg.timerId
    logicTimerId := msg.logicTimerId
    pParam := msg.pParam
    expiryTick := currentTick + ticks
    intervalTick := if msg.isInterval then ticks else 0
    rawListener := msg.listener
    weakListener := if useWeak then lock destroyed' msg.weakListener else none
    useWeak := useWeak
    cancelled := false }

def onTimerAdd (destroyed destroyed' : List ListenerId) (s : TimerImpl) (msg : TimerAddMessage) :
    TimerImpl :=
  let node := makeNode destroyed destroyed' s.currentTick msg
  let r := s.nextRef
  let nodes := Function.update s.nodes r node
  { s with
    nodes := nodes
    nextRef := r + 1
    timers := Function.update s.timers node.id (some r)
    listenerMap := (node.rawListener, node.id) :: s.listenerMap
    wheel := s.wheel.add nodes r }

variable (s : TimerImpl)

def setCancelled (r : NodeRef) : TimerImpl :=
  { s with nodes := Function.update s.nodes r { s.nodes r with cancelled := true } }

/-- The loop over `_listenerMap.equal_range(rawListener)` that drops `timerId`,
and `_timers.erase`. -/
def forget (rawListener : Option ListenerId) (timerId : TimerId) : TimerImpl :=
  { s with
    listenerMap := s.listenerMap.filter fun e => !(e.1 == rawListener && e.2 == timerId)
    timers := Function.update s.timers timerId none }

def eraseIds (timers : TimerId → Option NodeRef) (ids : List TimerId) : TimerId → Option NodeRef :=
  ids.foldl (fun t id => Function.update t id none) timers

def onTimerCancel (msg : TimerCancelMessage) : TimerImpl :=
  if msg.timerId ≠ 0 then
    match s.timers msg.timerId with
    | none => s
    | some r => (s.setCancelled r).forget (s.nodes r).rawListener msg.timerId
  else
    match msg.listener with
    | none => s
    | some target =>
      let idsToRemove := (s.listenerMap.filter fun e => e.1 == some target).map (·.2)
      { s with
        timers := eraseIds s.timers idsToRemove
        listenerMap := s.listenerMap.filter fun e => !(e.1 == some target) }

/-- End of `OnTimerExpired`: back into the wheel if interval, else out of the maps. -/
def reschedule (r : NodeRef) (timerId : TimerId) : TimerImpl :=
  let node := s.nodes r
  if node.intervalTick > 0 then
    let nodes :=
      Function.update s.nodes r { node with expiryTick := node.expiryTick + node.intervalTick }
    { s with nodes := nodes, wheel := s.wheel.add nodes r }
  else s.forget node.rawListener timerId

def onTimerExpired (destroyed : List ListenerId) (s : TimerImpl) (timerId : TimerId) :
    TimerImpl × Option OnTimerCall :=
  match s.timers timerId with
  | none => (s, none)
  | some r =>
    let node := s.nodes r
    if node.cancelled then (s.forget node.rawListener timerId, none)
    else if node.useWeak then
      match lock destroyed node.weakListener with
      | some l => (s.reschedule r timerId, some ⟨node.id, l, node.logicTimerId, node.pParam⟩)
      | none => ((s.setCancelled r).forget node.rawListener timerId, none)
    else
      (s.reschedule r timerId,
        node.rawListener.map fun l => ⟨node.id, l, node.logicTimerId, node.pParam⟩)

/-- `OnTick` up to its loop: count, advance, and the nodes that came out. -/
def beginTick : TimerImpl × List NodeRef :=
  let tick := s.currentTick + 1
  let (wheel, expired) := s.wheel.advance s.nodes tick
  ({ s with currentTick := tick, wheel := wheel }, expired)

end TimerImpl

/-! ## The dispatcher's run -/

/-- A call that was made: in which `OnTick` (counted from the start, unwrapped), at
which value of `_currentTick`, and whether the listener was destroyed by then. -/
structure Fired where
  call : OnTimerCall
  ticks : Nat
  tick : UInt32
  dead : Bool
deriving DecidableEq, Repr

structure TimerLoop where
  timer : TimerImpl
  /-- nodes the loop of the current `OnTick` has not come to yet -/
  expired : List NodeRef
  destroyed : List ListenerId
  ticks : Nat
  /-- calls so far, oldest first -/
  log : List Fired

inductive TimerAction where
  /-- `OnTimerAdd`; the listeners in `dying` go between its two looks at the weak pointer -/
  | add (msg : TimerAddMessage) (dying : List ListenerId)
  | cancel (msg : TimerCancelMessage)
  | tick
  | expire
  | destroy (l : ListenerId)
deriving DecidableEq, Repr

namespace TimerLoop

def init : TimerLoop := ⟨.init, [], [], 0, []⟩

/-- Messages are taken between ticks only; the loop of `OnTick` runs to its end first. -/
def step (s : TimerLoop) : TimerAction → Option TimerLoop
  | .add msg dying =>
    if s.expired = [] then
      some { s with
        timer := s.timer.onTimerAdd s.destroyed (dying ++ s.destroyed) msg
        destroyed := dying ++ s.destroyed }
    else none
  | .cancel msg =>
    if s.expired = [] then some { s with timer := s.timer.onTimerCancel msg } else none
  | .tick =>
    if s.expired = [] then
      let (timer, expired) := s.timer.beginTick
      some { s with timer := timer, expired := expired, ticks := s.ticks + 1 }
    else none
  | .expire =>
    match s.expired with
    | [] => none
    | r :: rest =>
      let (timer, call) := s.timer.onTimerExpired s.destroyed (s.timer.nodes r).id
      some { s with
        timer := timer
        expired := rest
        log := s.log ++ call.toList.map fun c =>
          ⟨c, s.ticks, s.timer.currentTick, decide (c.listener ∈ s.destroyed)⟩ }
  | .destroy l => some { s with destroyed := l :: s.destroyed }

end TimerLoop

end ToyServer
