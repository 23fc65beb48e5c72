/-! # The lifecycle of the delivery thread

The delivery loop runs on a thread of its own: activation starts it, deactivation stops it and
joins it. Both take one lock around a small shared state: the phase reported to callers, whether
the loop runs, the sender of the loop's channel and the handle of its thread. Activation and
deactivation may be called from any number of threads, directly or through the filter, which
first asks under the lock whether the sender is present (the filter's bucket reset in between
takes another lock and touches none of this state). Each call is one or two sections under the
lock with a wait on a condition between them, and a deactivation ends by joining the thread it
took. The delivery thread takes the lock twice: to say that its loop runs, and, once the loop
has received the quit command, to say that it stopped.

Each section under the lock is one step. A system holds the shared state, where each calling
thread is in its call, and the delivery threads spawned so far, named by their index; a step is
the next section of one thread, taken only when that thread can take it (a wait ends only when
its condition holds, a join only when the joined thread has ended).

* `Shared`, `Caller`, `Worker`: the state under the lock, a calling thread, a delivery thread;
* `System.step`: one section of one thread, or a thread starting a call;
* `System.run`: a schedule of steps; `System.start`: calling threads and no delivery thread;
* `System.Quiet`: no call in progress; `System.Consistent`: the phase agrees with the sender,
  the threads alive and the loop.
-/

namespace TrafficShaper.Lifecycle

/-- The phase of the lifecycle, as callers read it. -/
inductive Phase where
  | inactive
  | starting
  | running
  | stopping
  deriving DecidableEq, Repr

/-- **The state under the lock**: the phase, whether the loop runs (set by the delivery thread),
the sender of a loop's channel and the handle of a delivery thread, each naming the delivery
thread by its index. -/
structure Shared where
  phase : Phase
  running : Bool
  commands : Option Nat
  thread : Option Nat
  deriving DecidableEq, Repr

/-- **Where a calling thread is.** -/
inductive Caller where
  /-- No call in progress. -/
  | idle
  /-- Activating through the filter, before asking whether the sender is present. -/
  | askActivate
  /-- Deactivating through the filter, before asking whether the sender is present. -/
  | askDeactivate
  /-- Activating, before the first section. -/
  | activate
  /-- Deactivating, before the first section. -/
  | deactivate
  /-- Activating, waiting for the loop to run. -/
  | awaitRunning
  /-- Deactivating, waiting for the loop to stop. -/
  | awaitStopped
  /-- Deactivating, out of the lock, joining the thread whose handle it took. -/
  | join (handle : Option Nat)
  deriving DecidableEq, Repr

/-- Where a delivery thread is. -/
inductive WorkerPoint where
  /-- Spawned, before saying that its loop runs. -/
  | spawned
  /-- Its loop runs. -/
  | serving
  /-- It said that its loop stopped, and ended. -/
  | ended
  deriving DecidableEq, Repr

/-- **A delivery thread**: where it is, and whether the quit command is in its channel. -/
structure Worker where
  point : WorkerPoint
  told : Bool
  deriving DecidableEq, Repr

/-- **A system**: the shared state, the calling threads and the delivery threads. -/
structure System where
  shared : Shared
  callers : List Caller
  workers : List Worker
  deriving DecidableEq, Repr

/-- The calls a thread can make. -/
inductive Call where
  | activate
  | deactivate
  | filterActivate
  | filterDeactivate
  deriving DecidableEq, Repr

/-- Where a call starts. -/
def Call.entry : Call → Caller
  | .activate => .activate
  | .deactivate => .deactivate
  | .filterActivate => .askActivate
  | .filterDeactivate => .askDeactivate

/-- **A step**: a calling thread starting a call, or the next section of a calling thread or of a
delivery thread. -/
inductive Action where
  | call (i : Nat) (c : Call)
  | caller (i : Nat)
  | worker (t : Nat)
  deriving DecidableEq, Repr

namespace System

/-- Calling thread `i` moved to `c`. -/
def setCaller (s : System) (i : Nat) (c : Caller) : System := { s with callers := s.callers.set i c }

/-- The end of a deactivation's sections: the handle taken, the phase inactive, and the caller
on to joining the thread. -/
def release (s : System) (i : Nat) : System :=
  { s with shared := { s.shared with thread := none, phase := .inactive },
           callers := s.callers.set i (.join s.shared.thread) }

/-- Whether the thread of a handle has ended; no handle, nothing to wait for. -/
def joinable (s : System) : Option Nat → Bool
  | none => true
  | some t => s.workers[t]?.map (·.point) == some .ended

/-- **The next section of calling thread `i`**, if it can take one. -/
def callerStep (s : System) (i : Nat) : Option System :=
  match s.callers[i]? with
  | some .askActivate => some (s.setCaller i (if s.shared.commands.isSome then .idle else .activate))
  | some .askDeactivate =>
    some (s.setCaller i (if s.shared.commands.isSome then .deactivate else .idle))
  | some .activate =>
    if s.shared.commands.isSome then some (s.setCaller i .idle)
    else
      -- a new thread with a new channel; the call waits unless a loop already runs
      let t := s.workers.length
      some { shared := { s.shared with phase := .starting, commands := some t, thread := some t }
             callers := s.callers.set i (if s.shared.running then .idle else .awaitRunning)
             workers := s.workers ++ [⟨.spawned, false⟩] }
  | some .awaitRunning => if s.shared.running then some (s.setCaller i .idle) else none
  | some .deactivate =>
    match s.shared.commands with
    | none => some (s.setCaller i .idle)
    | some t =>
      -- the sender taken and the quit command sent; the call waits while a loop runs
      let told : System :=
        { s with shared := { s.shared with commands := none, phase := .stopping }
                 workers := s.workers.modify t fun w => { w with told := true } }
      if s.shared.running then some (told.setCaller i .awaitStopped) else some (told.release i)
  | some .awaitStopped => if s.shared.running then none else some (s.release i)
  | some (.join h) => if s.joinable h then some (s.setCaller i .idle) else none
  | _ => none

/-- **The next section of delivery thread `t`**: it says that its loop runs, and once its loop has
received the quit command, that it stopped; then it ends. -/
def workerStep (s : System) (t : Nat) : Option System :=
  match s.workers[t]? with
  | some ⟨.spawned, told⟩ =>
    some { s with shared := { s.shared with running := true, phase := .running }
                  workers := s.workers.set t ⟨.serving, told⟩ }
  | some ⟨.serving, true⟩ =>
    some { s with shared := { s.shared with running := false }
                  workers := s.workers.set t ⟨.ended, true⟩ }
  | _ => none

/-- **A step of the system**, if it can be taken. -/
def step (s : System) : Action → Option System
  | .call i c => if s.callers[i]? = some .idle then some (s.setCaller i c.entry) else none
  | .caller i => s.callerStep i
  | .worker t => s.workerStep t

/-- **A schedule of steps**, as long as each can be taken. -/
def run (s : System) : List Action → Option System
  | [] => some s
  | a :: as => (s.step a).bind fun s' => s'.run as

/-- `n` calling threads, no delivery thread, nothing started. -/
def start (n : Nat) : System := ⟨⟨.inactive, false, none, none⟩, List.replicate n .idle, []⟩

/-- No call in progress. -/
def Quiet (s : System) : Prop := ∀ c ∈ s.callers, c = .idle

/-- **A consistent lifecycle**: the phase is inactive exactly when there is no sender, which is
exactly when no delivery thread is alive, and the phase is running exactly when there is a
sender and the loop runs. -/
def Consistent (s : System) : Prop :=
  (s.shared.phase = .inactive ↔ s.shared.commands = none) ∧
    (s.shared.commands = none ↔ ∀ w ∈ s.workers, w.point = .ended) ∧
    (s.shared.phase = .running ↔ s.shared.commands.isSome ∧ s.shared.running = true)

instance (s : System) : Decidable s.Quiet := inferInstanceAs (Decidable (∀ c ∈ s.callers, _))

instance (s : System) : Decidable s.Consistent := inferInstanceAs (Decidable (_ ∧ _ ∧ _))

end System

end TrafficShaper.Lifecycle
