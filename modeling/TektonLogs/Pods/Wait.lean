import TektonLogs.Go.Schedule

/-!
# `Pod.Wait` and the informer's handlers, as one system of two goroutines

`Pod.Wait` (`pkg/pods/pod.go`) probes the pod with `Get`, then registers three event
handlers on a pod informer (`Pod.watcher`) and ranges over an unbuffered channel `eventC`
until `checkPodStatus` settles on a result. The handlers and Wait's deferred cleanup share
a mutex `mu` and the informer's stop channel `stopC`:

* a handler takes `mu`, and, if `stopC` is still open, logs the pod (a type assertion to
  `*corev1.Pod`) and sends the object on `eventC`, still holding `mu`;
* Wait, once its loop breaks, takes `mu`, closes `stopC` then `eventC`, and unlocks.

The informer delivers notifications one at a time, from a single listener goroutine, so the
system has exactly two parties: Wait, and the listener running a handler. Each has one
program counter, and `step` gives each party's next atomic action, or `none` when that
party is blocked (on `mu`, on a rendezvous over `eventC`, or because it has finished). A Go
panic stops the whole process, so every step of a faulted state is `none`.

Modelling decisions, each checked against the source:

* An unbuffered send completes only together with a receive; the rendezvous is Wait's
  step. A send on a closed channel panics at once, without a receiver: the listener's step.
* The informer may still hand a notification to the listener after `stopC` is closed (its
  listener drains what it already holds); delivery is therefore allowed whenever handlers
  are registered, which over-approximates the informer and so only strengthens the safety
  results proved over it.
* `AddEventHandler` cannot fail on a fresh factory; its error branch is not modelled.
* `update`'s old object is never read and is left out.
-/

set_option autoImplicit false

namespace TektonLogs
namespace Pods

open Corev1 Go

/-! ## 1. `checkPodStatus` -/

/-- A `(*corev1.Pod, error)` pair. -/
structure PodResult where
  pod : Option Corev1.Pod
  err : Option String
  deriving DecidableEq, Repr

/-- `pod != nil || err != nil`: the condition on which Wait's loop breaks. -/
def PodResult.settles (r : PodResult) : Bool := r.pod.isSome || r.err.isSome

/-- The `interface{}` a handler receives: a `*corev1.Pod`, or on delete the informer's
`cache.DeletedFinalStateUnknown` tombstone. -/
inductive Obj where
  | pod (p : Corev1.Pod)
  | deletedFinalStateUnknown
  deriving DecidableEq, Repr

/-- `obj.(*corev1.Pod)`. -/
def Obj.asPod? : Obj → Option Corev1.Pod
  | .pod p => some p
  | .deletedFinalStateUnknown => none

/-- The loop over `pod.Status.Conditions`: the first `Initialized` or `ContainersReady`
condition whose status is `Unknown`. -/
def unknownReadiness? (conditions : List PodCondition) : Option PodCondition :=
  conditions.find? fun c =>
    (c.type == podInitialized || c.type == containersReady) && c.status == conditionUnknown

/-- `checkPodStatus`. -/
def checkPodStatus (obj : Obj) : PodResult :=
  match obj.asPod? with
  | none => ⟨none, some "failed to cast to pod object"⟩
  | some pod =>
    if pod.deletionTimestamp.isSome then
      ⟨some pod, some ("failed to run the pod " ++ pod.name ++ " ")⟩
    else if pod.status.phase == podSucceeded || pod.status.phase == podRunning ||
        pod.status.phase == podFailed then
      ⟨some pod, none⟩
    else
      match unknownReadiness? pod.status.conditions with
      | some c => ⟨some pod, some c.message⟩
      | none => ⟨none, none⟩

/-! ## 2. Notifications -/

/-- One notification the informer's listener hands to the handlers `Pod.watcher` registers
(resyncs arrive as updates). -/
inductive Notification where
  | add (obj : Corev1.Pod)
  | update (newObj : Corev1.Pod)
  | delete (obj : Obj)
  deriving DecidableEq, Repr

/-- The object the handler sends on `eventC`. -/
def Notification.obj : Notification → Obj
  | .add p => .pod p
  | .update p => .pod p
  | .delete o => o

/-! ## 3. The system -/

/-- The holder of `mu`. -/
inductive Holder where
  | wait
  | listener
  deriving DecidableEq, Repr

/-- Where Wait is. The cleanup states carry the result `return pod, err` has fixed. -/
inductive WaitPc where
  /-- `p.Get()`, with the probe's error if it fails. -/
  | get (probe : Option String)
  /-- `p.watcher(...)`: `AddEventHandler` and `factory.Start(stopC)`. -/
  | watch
  /-- `factory.WaitForCacheSync(stopC)`. -/
  | sync
  /-- `for e := range eventC`. -/
  | recv
  /-- The deferred `mu.Lock()`. -/
  | lock (res : PodResult)
  | closeStop (res : PodResult)
  | closeEvent (res : PodResult)
  | unlock (res : PodResult)
  | returned (res : PodResult)
  deriving DecidableEq, Repr

/-- Where the listener is: idle, or inside a handler invocation. -/
inductive ListenerPc where
  | idle
  /-- `mu.Lock()`. -/
  | lock (n : Notification)
  /-- Holding `mu`: `select { case <-stopC: ... default: ... }` and the log line. -/
  | select (n : Notification)
  /-- Holding `mu`: `eventC <- obj`. -/
  | send (o : Obj)
  /-- Holding `mu`: the deferred `mu.Unlock()`. -/
  | unlock
  deriving DecidableEq, Repr

/-- The two goroutines, the informer's queue, and the shared synchronisation state. -/
structure State where
  wait : WaitPc
  listener : ListenerPc
  /-- Notifications the informer has yet to deliver, in order. -/
  pending : List Notification
  /-- Handlers registered and the informer started. -/
  started : Bool
  mu : Option Holder
  stopClosed : Bool
  eventClosed : Bool
  fault : Option Panic
  deriving DecidableEq, Repr

/-- Wait about to probe the pod, the informer holding `ns`. -/
def initial (probe : Option String) (ns : List Notification) : State :=
  ⟨.get probe, .idle, ns, false, none, false, false, none⟩

/-- The two parties. -/
inductive Party where
  | wait
  | listener
  deriving DecidableEq, Repr

/-- Wait's next action. -/
def waitStep (s : State) : WaitPc → Option State
  | .get (some e) => some { s with wait := .returned ⟨none, some e⟩ }
  | .get none => some { s with wait := .watch }
  | .watch => some { s with wait := .sync, started := true }
  | .sync => some { s with wait := .recv }
  | .recv =>
    if s.eventClosed then some { s with wait := .lock ⟨none, none⟩ }
    else match s.listener with
      | .send o =>
        let res := checkPodStatus o
        some { s with listener := .unlock, wait := if res.settles then .lock res else .recv }
      | _ => none
  | .lock res =>
    if s.mu = none then some { s with mu := some .wait, wait := .closeStop res } else none
  | .closeStop res =>
    if s.stopClosed then some { s with fault := some .closeOfClosedChannel }
    else some { s with stopClosed := true, wait := .closeEvent res }
  | .closeEvent res =>
    if s.eventClosed then some { s with fault := some .closeOfClosedChannel }
    else some { s with eventClosed := true, wait := .unlock res }
  | .unlock res => some { s with mu := none, wait := .returned res }
  | .returned _ => none

/-- The listener's next action. -/
def listenerStep (s : State) : ListenerPc → Option State
  | .idle =>
    match s.started, s.pending with
    | true, n :: ns => some { s with listener := .lock n, pending := ns }
    | _, _ => none
  | .lock n =>
    if s.mu = none then some { s with mu := some .listener, listener := .select n } else none
  | .select n =>
    if s.stopClosed then some { s with listener := .unlock }
    else match n.obj.asPod? with
      | none => some { s with fault := some .failedTypeAssertion }
      | some _ => some { s with listener := .send n.obj }
  | .send _ =>
    if s.eventClosed then some { s with fault := some .sendOnClosedChannel } else none
  | .unlock => some { s with mu := none, listener := .idle }

/-- A party's next action, `none` when it is blocked or finished, or the process has
panicked. -/
def step (s : State) : Party → Option State
  | .wait => if s.fault.isSome then none else waitStep s s.wait
  | .listener => if s.fault.isSome then none else listenerStep s s.listener

/-- One action of either party. -/
def Step (s s' : State) : Prop := Go.Step step s s'

/-- Every state some interleaving leads to. -/
def Reaches (s₀ : State) : State → Prop := Go.Reaches step s₀

/-- The state after the parties act in the order `ps`, if each of them can. -/
def runSchedule (s : State) (ps : List Party) : Option State := Go.runSchedule step s ps

/-- No party can act, and the process has not panicked. -/
def Stuck (s : State) : Prop :=
  s.fault = none ∧ step s .wait = none ∧ step s .listener = none

instance (s : State) : Decidable (Stuck s) :=
  inferInstanceAs (Decidable (s.fault = none ∧ step s .wait = none ∧ step s .listener = none))

/-! ## 4. How Wait ends -/

/-- How `p.Wait()` ends, as its caller sees it: it returns a result, a handler's type
assertion panics (the one panic a run reaches, `Pods/Outcome.lean`), or it never returns. -/
inductive WaitOutcome where
  | returned (res : PodResult)
  | panicked
  | blocked
  deriving DecidableEq, Repr

/-- How a run that has stopped has ended: in a panic, with Wait returned, or with Wait still
inside. -/
def State.outcome (s : State) : WaitOutcome :=
  match s.fault, s.wait with
  | some _, _ => .panicked
  | none, .returned res => .returned res
  | none, _ => .blocked

end Pods
end TektonLogs
