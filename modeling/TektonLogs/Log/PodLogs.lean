import TektonLogs.Log.StepsLogs

/-!
# `readPodLogs`: a log worker, an error forwarder, and a wait group

`readPodLogs` starts two goroutines and returns their two output channels:

* the **forwarder** copies every error of `podErrC` (when there is one) to `errC`, calls
  `wg.Done()`, waits for the group, and closes `errC`;
* the **log worker** takes pod names from `podC`, fetches each pod (`Get`, or `Wait` when
  following), sends an error if the fetch failed, and streams the pod's filtered steps with
  `readStepsLogs`; when `podC` closes it closes `logC` and calls `wg.Done()`.

The caller adds one to the group before starting each goroutine.

The log worker is sequential code, so what it sends is a function of the pod names and of
what the cluster answers (`logWorker`, a `Behaviour`). The three goroutines' shared state —
the group's counter and the two channels — is a small step system (`State`, `step`), in
which the worker replays its `Behaviour` one send at a time. Every consumer is taken to
receive at once, so a send completes as soon as it is taken, unless its channel is closed.

What the model shows:

* `logWorker_nil_pod_panics`: a fetch that fails without a snapshot (the
  `Wait` of `Pods/Wait.lean` returns one when its probe fails) is followed by
  `filterSteps(nil, ...)`, which dereferences the nil pod: the worker sends the error and
  crashes, and no later pod is fetched. A fetch that fails with a snapshot is not skipped
  either: its steps are streamed after the error.
* `PodLogs.Reaches.logs`: in every interleaving, `logC` has carried a prefix of what the
  worker sends, in its order, and the worker still holds the rest: no record is lost or
  reordered by the goroutines' scheduling.
* `readPodLogs_sends_on_closed_errC`: the forwarder can run `wg.Done()`, `wg.Wait()` and
  `close(errC)` before the caller's second `wg.Add(1)`; the worker then sends an error on
  the closed `errC`.
* `runs_end`: that send is the only way a run whose worker returns stops short. Every other
  run stops with all three goroutines finished and both channels closed: `logC` has carried
  every record, and `errC` every error of `podErrC` and of the worker.
* `readPodLogs_run_length_le`: and every run stops, after at most ten actions more than
  there are errors on `podErrC` and sends of the worker.
* `race_iff_errs`: the race bites exactly when the worker has an error to send.
-/

set_option autoImplicit false

namespace TektonLogs
namespace TaskReader

open Go Pods

/-! ## 1. The log worker -/

/-- `fmt.Errorf("task %s failed: %s. Run tkn tr desc %s for more details", ...)`. -/
def fetchErr (r : Reader) (e : String) : String :=
  "task " ++ r.task ++ " failed: " ++ trimSpace e ++ ". Run tkn tr desc " ++ r.run ++
    " for more details"

/-- One iteration of the log worker's loop, for the pod `p` it was handed. -/
def streamPod (r : Reader) (p : Pods.Pod) (follow timestamps : Bool) : Behaviour Send :=
  match if follow then p.wait else .returned p.get with
  | .blocked => ⟨[], .blocked⟩
  | .panicked => ⟨[], .panicked .failedTypeAssertion⟩
  | .returned res =>
    (match res.err with
     | some e => Behaviour.cons (Send.err (fetchErr r e)) .done
     | none => Behaviour.done).andThen
    (match res.pod with
     | none => ⟨[], .panicked .nilPointerDereference⟩
     | some pod => readStepsLogs r (filterSteps pod r.allSteps r.steps) p follow timestamps)

/-- The log worker's loop over the pod names `podC` delivers before it closes;
`cluster name` is `pods.New(name, ...)`. -/
def logWorker (r : Reader) (cluster : String → Pods.Pod) (follow timestamps : Bool) :
    List String → Behaviour Send
  | [] => .done
  | podName :: rest =>
    (streamPod r (cluster podName) follow timestamps).andThen
      (logWorker r cluster follow timestamps rest)

/-- How one iteration ends: blocked in a `Wait` that never returns, in the panic of a `Wait`
whose handler fails its assertion, on the nil pod of a fetch that returned no snapshot, or
returned. -/
theorem streamPod_ending (r : Reader) (p : Pods.Pod) (follow timestamps : Bool) :
    (streamPod r p follow timestamps).ending =
      match if follow then p.wait else .returned p.get with
      | .blocked => .blocked
      | .panicked => .panicked .failedTypeAssertion
      | .returned res =>
        if res.pod = none then .panicked .nilPointerDereference else .returned := by
  unfold streamPod
  split
  · rfl
  · rfl
  · rename_i res _
    rcases res with ⟨_ | pod, _ | e⟩ <;>
      simp only [Behaviour.cons_andThen, Behaviour.done_andThen, Behaviour.cons_ending,
        readStepsLogs_returns, reduceCtorEq, ↓reduceIte]

/-- A fetch that returns no snapshot ends the worker: it sends the fetch error, then
`filterSteps(nil, ...)` dereferences the pod, and no later pod is fetched. -/
theorem logWorker_nil_pod_panics (r : Reader) (cluster : String → Pods.Pod)
    (follow timestamps : Bool) {podName e : String} (rest : List String)
    (h : (if follow then (cluster podName).wait else .returned (cluster podName).get) =
      .returned ⟨none, some e⟩) :
    logWorker r cluster follow timestamps (podName :: rest) =
      ⟨[.err (fetchErr r e)], .panicked .nilPointerDereference⟩ := by
  have hs : streamPod r (cluster podName) follow timestamps =
      ⟨[.err (fetchErr r e)], .panicked .nilPointerDereference⟩ := by
    simp only [streamPod, h]; rfl
  rw [logWorker, hs]; rfl

/-- `Pod.Wait` whose probe fails returns a nil pod with the probe's error. -/
theorem wait_returns_nil_pod (e : String) (ns : List Notification) :
    Pods.Reaches (Pods.initial (some e) ns)
      ⟨.returned ⟨none, some e⟩, .idle, ns, false, none, false, false, none⟩ :=
  Go.runSchedule_reaches [.wait] rfl

/-- The probe's error when the pod is not there. -/
def podNotFound : String := "pods build-pod not found"

/-- A pod of one step, `step-run`. -/
def runPod (name : String) : Corev1.Pod :=
  { name := name, spec := { containers := [⟨"step-run"⟩] }, status := { phase := Corev1.podSucceeded } }

/-- A container stream of the one line `l`. -/
def lineStream (l : String) : LogStream :=
  ⟨[l], [], [.line l, .lineClose, .errClose], .left (.left (.right .nil))⟩

/-- Followed pods: `build-pod`'s wait ends as a failed probe does, any other's as a deleted
pod's (`checkPodStatus` of a pod with a deletion timestamp); each container prints `l`. -/
def followCluster (name : String) : Pods.Pod :=
  ⟨⟨none, none⟩,
    if name = "build-pod" then .returned ⟨none, some podNotFound⟩
    else .returned (Pods.checkPodStatus (.pod { runPod name with deletionTimestamp := some "now" })),
    fun _ _ _ => .ok (lineStream "l"), fun _ => none⟩

/-- **A failed fetch is not contained.** `build-pod`'s `Wait` returns no snapshot: the worker
sends its error, dereferences the nil pod, and crashes before fetching `build-pod-2`. A
deleted pod's `Wait` returns the pod with an error: the worker sends the error, then streams
the pod's step records. -/
theorem logWorker_fetch_failure_uncontained :
    Pods.Reaches (Pods.initial (some podNotFound) [])
      ⟨.returned ⟨none, some podNotFound⟩, .idle, [], false, none, false, false, none⟩ ∧
    logWorker buildReader followCluster true false ["build-pod", "build-pod-2"] =
      ⟨[.err (fetchErr buildReader podNotFound)], .panicked .nilPointerDereference⟩ ∧
    logWorker buildReader followCluster true false ["deleted-pod"] =
      ⟨[.err (fetchErr buildReader "failed to run the pod deleted-pod "),
        .log (buildReader.logOf ⟨"run", "step-run", {}⟩ "l"),
        .log (buildReader.logOf ⟨"run", "step-run", {}⟩ eofLog)], .returned⟩ :=
  ⟨wait_returns_nil_pod podNotFound [],
    logWorker_nil_pod_panics buildReader followCluster true false ["build-pod-2"] rfl, rfl⟩

/-! ## 2. The goroutines and the wait group -/

namespace PodLogs

/-- Where the body of `readPodLogs` is. -/
inductive CallerPc where
  | add1
  | goForwarder
  | add2
  | goWorker
  | returned
  deriving DecidableEq, Repr

/-- The caller's `wg.Add(1)` calls so far. -/
def CallerPc.adds : CallerPc → Nat
  | .add1 => 0
  | .goForwarder | .add2 => 1
  | .goWorker | .returned => 2

/-- The goroutines the caller has started so far. -/
def CallerPc.started : CallerPc → Nat
  | .add1 | .goForwarder => 0
  | .add2 | .goWorker => 1
  | .returned => 2

/-- Where the forwarder is. -/
inductive ForwarderPc where
  /-- Not yet started, with the errors `podErrC` will deliver before it closes. -/
  | notStarted (podErrs : List String)
  /-- Ranging over `podErrC`, with the errors still to come. -/
  | forwarding (rest : List String)
  /-- In `wg.Wait()`. -/
  | waiting
  /-- `close(errC)`. -/
  | closing
  | finished
  deriving DecidableEq, Repr

/-- Where the log worker is. -/
inductive WorkerPc where
  /-- Not yet started, with what it will do. -/
  | notStarted (work : Behaviour Send)
  /-- Running its loop, with what it has still to do. -/
  | running (rest : Behaviour Send)
  /-- The deferred `wg.Done()`, after the deferred `close(logC)`. -/
  | done
  | finished
  deriving DecidableEq, Repr

/-- The three goroutines, the wait group, the two channels, and what the consumers have
received. -/
structure State where
  caller : CallerPc
  forwarder : ForwarderPc
  worker : WorkerPc
  wg : Nat
  errClosed : Bool
  logClosed : Bool
  errs : List String
  logs : List Log
  fault : Option Panic
  deriving DecidableEq, Repr

/-- `readPodLogs` about to start, with `podErrC`'s errors (`none`: a nil `podErrC`) and what
the log worker will do. -/
def initial (podErrC : Option (List String)) (work : Behaviour Send) : State :=
  ⟨.add1, .notStarted (podErrC.getD []), .notStarted work, 0, false, false, [], [], none⟩

/-- The goroutines. -/
inductive Party where
  | caller
  | forwarder
  | worker
  deriving DecidableEq, Repr

/-- The body of `readPodLogs`. -/
def callerStep (s : State) : CallerPc → Option State
  | .add1 => some { s with caller := .goForwarder, wg := s.wg + 1 }
  | .goForwarder =>
    match s.forwarder with
    | .notStarted errs => some { s with caller := .add2, forwarder := .forwarding errs }
    | _ => none
  | .add2 => some { s with caller := .goWorker, wg := s.wg + 1 }
  | .goWorker =>
    match s.worker with
    | .notStarted work => some { s with caller := .returned, worker := .running work }
    | _ => none
  | .returned => none

/-- `wg.Done()`: a negative counter panics. -/
def State.wgDone (s : State) : State :=
  Go.wgDoneOn s.wg (fun p => { s with fault := some p }) fun wg => { s with wg := wg }

@[simp] theorem State.wgDone_logs (s : State) : s.wgDone.logs = s.logs :=
  Go.wgDoneOn_cases (fun t : State => t.logs = s.logs) rfl fun _ => rfl

@[simp] theorem State.wgDone_worker (s : State) : s.wgDone.worker = s.worker :=
  Go.wgDoneOn_cases (fun t : State => t.worker = s.worker) rfl fun _ => rfl

/-- `wg.Done()` panics, if at all, on the counter, never on a channel. -/
theorem State.wgDone_ne_sendOnClosed {s : State} (hf : s.fault = none) :
    s.wgDone.fault ≠ some .sendOnClosedChannel :=
  Go.wgDoneOn_cases (fun t : State => t.fault ≠ some .sendOnClosedChannel) nofun
    fun _ => by simp [hf]

/-- The forwarder. -/
def forwarderStep (s : State) : ForwarderPc → Option State
  | .notStarted _ => none
  | .forwarding (e :: rest) =>
    if s.errClosed then some { s with fault := some .sendOnClosedChannel }
    else some { s with forwarder := .forwarding rest, errs := s.errs ++ [e] }
  | .forwarding [] => some ({ s with forwarder := .waiting }.wgDone)
  | .waiting => if s.wg = 0 then some { s with forwarder := .closing } else none
  | .closing =>
    if s.errClosed then some { s with fault := some .closeOfClosedChannel }
    else some { s with forwarder := .finished, errClosed := true }
  | .finished => none

/-- The log worker: one send, or its deferred `close(logC)` and `wg.Done()`. A panic stops
the process. -/
def workerStep (s : State) : WorkerPc → Option State
  | .notStarted _ => none
  | .running ⟨.log l :: rest, e⟩ =>
    if s.logClosed then some { s with fault := some .sendOnClosedChannel }
    else some { s with worker := .running ⟨rest, e⟩, logs := s.logs ++ [l] }
  | .running ⟨.err m :: rest, e⟩ =>
    if s.errClosed then some { s with fault := some .sendOnClosedChannel }
    else some { s with worker := .running ⟨rest, e⟩, errs := s.errs ++ [m] }
  | .running ⟨[], .returned⟩ =>
    if s.logClosed then some { s with fault := some .closeOfClosedChannel }
    else some { s with worker := .done, logClosed := true }
  | .running ⟨[], .panicked p⟩ => some { s with fault := some p }
  | .running ⟨[], .blocked⟩ => none
  | .done => some ({ s with worker := .finished }.wgDone)
  | .finished => none

/-- A goroutine's next action; `none` when it is blocked or finished, or the process has
panicked. -/
def step (s : State) : Party → Option State
  | .caller => if s.fault.isSome then none else callerStep s s.caller
  | .forwarder => if s.fault.isSome then none else forwarderStep s s.forwarder
  | .worker => if s.fault.isSome then none else workerStep s s.worker

/-- One action of any goroutine. -/
def Step (s s' : State) : Prop := Go.Step step s s'

/-- Every state some interleaving leads to. -/
def Reaches (s₀ : State) : State → Prop := Go.Reaches step s₀

/-- The state after the goroutines act in the order `ps`, if each of them can. -/
def runSchedule (s : State) (ps : List Party) : Option State := Go.runSchedule step s ps

/-! ## 3. No record is lost or reordered

Whatever the interleaving, what `logC` has carried and what the worker has still to send
make up the worker's whole output: the consumer sees a prefix of it, and all of it once the
worker is done. Only the worker touches `logC`; a caller step moves the worker's work from
`notStarted` to `running` unchanged, and a forwarder step leaves both alone. -/

/-- The records the log worker has still to send. -/
def WorkerPc.pendingLogs : WorkerPc → List Log
  | .notStarted work | .running work => work.logs
  | .done | .finished => []

theorem callerStep_logs {s s' : State} {c : CallerPc} (h : callerStep s c = some s') :
    s'.logs = s.logs ∧ s'.worker.pendingLogs = s.worker.pendingLogs := by
  unfold callerStep at h
  repeat' split at h
  all_goals simp only [Option.some.injEq, reduceCtorEq] at h
  all_goals subst h; simp_all [WorkerPc.pendingLogs]

theorem forwarderStep_logs {s s' : State} {f : ForwarderPc} (h : forwarderStep s f = some s') :
    s'.logs = s.logs ∧ s'.worker = s.worker := by
  unfold forwarderStep at h
  repeat' split at h
  all_goals simp only [Option.some.injEq, reduceCtorEq] at h
  all_goals subst h; simp

theorem workerStep_logs {s s' : State} (h : workerStep s s.worker = some s') :
    s'.logs ++ s'.worker.pendingLogs = s.logs ++ s.worker.pendingLogs := by
  rcases s with ⟨c, f, w, wg, ec, lc, errs, logs, fault⟩
  dsimp only at h ⊢
  unfold workerStep at h
  repeat' split at h
  all_goals simp only [Option.some.injEq, reduceCtorEq] at h
  all_goals subst h; simp_all [WorkerPc.pendingLogs, Behaviour.logs, Send.log?]

theorem step_logs {s s' : State} {p : Party} (h : step s p = some s') :
    s'.logs ++ s'.worker.pendingLogs = s.logs ++ s.worker.pendingLogs := by
  cases p <;> simp only [step] at h <;> split at h <;> try contradiction
  · obtain ⟨h1, h2⟩ := callerStep_logs h; rw [h1, h2]
  · obtain ⟨h1, h2⟩ := forwarderStep_logs h; rw [h1, h2]
  · exact workerStep_logs h

/-- In every reachable state, `logC` has carried a prefix of the worker's output, and the
rest is still to come. -/
theorem Reaches.logs {podErrC : Option (List String)} {work : Behaviour Send} {s : State}
    (h : Reaches (initial podErrC work) s) : s.logs ++ s.worker.pendingLogs = work.logs := by
  induction h with
  | refl => rfl
  | tail _ hst ih => obtain ⟨p, hp⟩ := hst; rw [step_logs hp, ih]

/-! ## 4. The wait group's race -/

/-- A retried task's pods: the failed attempt `build-pod-retry1` prints `r0` and its step
ends in error; the current attempt `build-pod` prints `r1`. -/
def retryCluster (name : String) : Pods.Pod :=
  if name = "build-pod-retry1" then
    ⟨⟨some (runPod name), none⟩, .blocked, fun _ _ _ => .ok (lineStream "r0"),
      fun _ => some "step run failed"⟩
  else ⟨⟨some (runPod name), none⟩, .blocked, fun _ _ _ => .ok (lineStream "r1"), fun _ => none⟩

/-- **`errC` is closed under the worker.** With a nil `podErrC`, the forwarder runs `wg.Done()`
(the counter drops to zero), `wg.Wait()` and `close(errC)` before the caller's second
`wg.Add(1)`; the worker then streams the failed attempt and sends its step error on the
closed `errC`, and the process panics. -/
theorem readPodLogs_sends_on_closed_errC :
    ∃ s, Reaches (initial none
        (logWorker buildReader retryCluster false false ["build-pod-retry1", "build-pod"])) s ∧
      s.errClosed = true ∧ s.fault = some .sendOnClosedChannel :=
  ⟨_, runSchedule_reaches [.caller, .caller, .forwarder, .forwarder, .forwarder, .caller, .caller,
    .worker, .worker, .worker] rfl, rfl, rfl⟩

/-! ## 5. How every run ends

Whatever the interleaving, `readPodLogs` ends in one of two ways when its worker returns: the
process panics sending on a channel (the race above is the way `errC` is closed under the
worker), or every goroutine finishes with both channels closed, `logC` having carried the
worker's records and `errC` a shuffle of `podErrC`'s errors and the worker's, each in its own
order. No run stops anywhere else. The invariant reads the wait-group counter off the program
counters, as in `Log/LiveLogs.lean`. -/

/-- The forwarder has started. -/
def ForwarderPc.isStarted : ForwarderPc → Bool
  | .notStarted _ => false
  | .forwarding _ | .waiting | .closing | .finished => true

/-- The forwarder has run its `wg.Done()`. -/
def ForwarderPc.counted : ForwarderPc → Bool
  | .waiting | .closing | .finished => true
  | .notStarted _ | .forwarding _ => false

/-- The errors the forwarder has still to send. -/
def ForwarderPc.pendingErrs : ForwarderPc → List String
  | .notStarted errs | .forwarding errs => errs
  | .waiting | .closing | .finished => []

/-- The worker has started. -/
def WorkerPc.isStarted : WorkerPc → Bool
  | .notStarted _ => false
  | .running _ | .done | .finished => true

/-- The worker has run its deferred `wg.Done()`. -/
def WorkerPc.counted : WorkerPc → Bool
  | .finished => true
  | .notStarted _ | .running _ | .done => false

/-- The worker has closed `logC`. -/
def WorkerPc.closedLog : WorkerPc → Bool
  | .done | .finished => true
  | .notStarted _ | .running _ => false

/-- What the worker has still to do before its deferred calls. -/
def WorkerPc.work? : WorkerPc → Option (Behaviour Send)
  | .notStarted work | .running work => some work
  | .done | .finished => none

/-- The errors the worker has still to send. -/
def WorkerPc.pendingErrs : WorkerPc → List String
  | .notStarted work | .running work => work.errs
  | .done | .finished => []

/-- The inductive invariant, over `podErrC`'s errors and the worker's code. -/
structure Inv (podErrs : List String) (work : Behaviour Send) (s : State) : Prop where
  wg : s.wg + s.forwarder.counted.toNat + s.worker.counted.toNat = s.caller.adds
  forwarderStarted : s.forwarder.isStarted = true ↔ 0 < s.caller.started
  workerStarted : s.worker.isStarted = true ↔ 1 < s.caller.started
  errClosed : s.errClosed = true ↔ s.forwarder = .finished
  logClosed : s.logClosed = s.worker.closedLog
  ending : ∀ w, s.worker.work? = some w → w.ending = work.ending
  errs : ∃ a b, podErrs = a ++ s.forwarder.pendingErrs ∧ work.errs = b ++ s.worker.pendingErrs ∧
    Interleaving a b s.errs
  fault : ∀ p, s.fault = some p → p = .sendOnClosedChannel ∨ work.ending = .panicked p

theorem initial_inv (podErrC : Option (List String)) (work : Behaviour Send) :
    Inv (podErrC.getD []) work (initial podErrC work) :=
  ⟨rfl, iff_of_false nofun (Nat.lt_irrefl 0), iff_of_false nofun (Nat.not_lt_zero 1),
    iff_of_false nofun nofun, rfl, (fun _ h => by cases h; rfl), ⟨[], [], rfl, rfl, .nil⟩,
    fun _ h => nomatch h⟩

namespace Inv

variable {podErrs : List String} {work : Behaviour Send} {s : State}

/-- A send on a closed channel keeps the invariant. -/
theorem sendOnClosed (hi : Inv podErrs work s) :
    Inv podErrs work { s with fault := some .sendOnClosedChannel } :=
  ⟨hi.wg, hi.forwarderStarted, hi.workerStarted, hi.errClosed, hi.logClosed, hi.ending, hi.errs,
    fun _ h => by cases h; exact .inl rfl⟩

/-- The counter covers a started forwarder that has not counted itself down. -/
theorem wg_pos_forwarder (hi : Inv podErrs work s) (hs : s.forwarder.isStarted = true)
    (hc : s.forwarder.counted = false) : s.wg ≠ 0 := by
  have hwg := hi.wg
  have hst := hi.forwarderStarted.mp hs
  have hle := Bool.toNat_le s.worker.counted
  have hwk : s.caller.started ≤ 1 → s.worker.counted.toNat = 0 := fun h => by
    cases hw : s.worker <;> first | rfl | (have hws := hi.workerStarted.mp (by rw [hw]; rfl); omega)
  rw [hc, Bool.toNat_false] at hwg
  cases hcl : s.caller <;> rw [hcl] at hwg hst hwk <;>
    simp only [CallerPc.adds, CallerPc.started] at hwg hst hwk <;> omega

/-- The counter covers a started worker that has not counted itself down. -/
theorem wg_pos_worker (hi : Inv podErrs work s) (hs : s.worker.isStarted = true)
    (hc : s.worker.counted = false) : s.wg ≠ 0 := by
  have hwg := hi.wg
  have hst := hi.workerStarted.mp hs
  have := Bool.toNat_le s.forwarder.counted
  rw [hc, Bool.toNat_false] at hwg
  cases hcl : s.caller <;> rw [hcl] at hwg hst <;>
    simp only [CallerPc.adds, CallerPc.started] at hwg hst <;> omega

end Inv

theorem callerStep_inv {podErrs : List String} {work : Behaviour Send} {s s' : State}
    (hi : Inv podErrs work s) (h : callerStep s s.caller = some s') : Inv podErrs work s' := by
  rcases s with ⟨c, fw, wk, wg, ec, lc, errs, logs, f⟩
  obtain ⟨hwg, hfs, hws, hec, hlc, hend, herrs, hf⟩ := hi
  dsimp only at *
  cases c with
  | add1 | add2 =>
    cases h
    exact ⟨by simp only [CallerPc.adds] at hwg ⊢; omega, hfs, hws, hec, hlc, hend, herrs, hf⟩
  | goForwarder =>
    simp only [callerStep] at h
    split at h
    · cases h
      exact ⟨hwg, iff_of_true rfl Nat.zero_lt_one,
        hws.trans (iff_of_false (Nat.not_lt_zero 1) (Nat.lt_irrefl 1)),
        hec.trans (iff_of_false nofun nofun), hlc, hend, herrs, hf⟩
    · cases h
  | goWorker =>
    simp only [callerStep] at h
    split at h
    · cases h
      exact ⟨hwg, hfs.trans (iff_of_true Nat.zero_lt_one Nat.zero_lt_two),
        iff_of_true rfl Nat.one_lt_two, hec, hlc, hend, herrs, hf⟩
    · cases h
  | returned => cases h

theorem forwarderStep_inv {podErrs : List String} {work : Behaviour Send} {s s' : State}
    (hi : Inv podErrs work s) (h : forwarderStep s s.forwarder = some s') :
    Inv podErrs work s' := by
  have hpos := hi.wg_pos_forwarder
  rcases s with ⟨c, fw, wk, wg, ec, lc, errs, logs, f⟩
  obtain ⟨hwg, hfs, hws, hec, hlc, hend, ⟨a, b, ha, hb, hab⟩, hf⟩ := id hi
  dsimp only at *
  cases fw with
  | notStarted _ | finished => cases h
  | forwarding rest =>
    cases rest with
    | cons e rest =>
      simp only [forwarderStep] at h
      split at h
      · cases h
        exact hi.sendOnClosed
      · cases h
        exact ⟨hwg, hfs, hws, hec.trans (iff_of_false nofun nofun), hlc, hend,
          ⟨a ++ [e], b, by rw [ha]; simp [ForwarderPc.pendingErrs], hb, hab.append_left e⟩, hf⟩
    | nil =>
      have hne := hpos rfl rfl
      simp only [forwarderStep, State.wgDone, Go.wgDoneOn_of_ne_zero hne, Option.some.injEq] at h
      subst h
      exact ⟨by simp only [ForwarderPc.counted, Bool.toNat_false, Bool.toNat_true] at hwg ⊢; omega,
        hfs, hws, hec.trans (iff_of_false nofun nofun), hlc, hend,
        ⟨a, b, by simpa [ForwarderPc.pendingErrs] using ha, hb, hab⟩, hf⟩
  | waiting =>
    simp only [forwarderStep] at h
    split at h
    · cases h
      exact ⟨hwg, hfs, hws, hec.trans (iff_of_false nofun nofun), hlc, hend, ⟨a, b, ha, hb, hab⟩, hf⟩
    · cases h
  | closing =>
    obtain rfl : ec = false := Bool.eq_false_iff.mpr fun h => nomatch hec.mp h
    cases h
    exact ⟨hwg, hfs, hws, iff_of_true rfl rfl, hlc, hend, ⟨a, b, ha, hb, hab⟩, hf⟩

theorem workerStep_inv {podErrs : List String} {work : Behaviour Send} {s s' : State}
    (hi : Inv podErrs work s) (h : workerStep s s.worker = some s') : Inv podErrs work s' := by
  have hpos := hi.wg_pos_worker
  rcases s with ⟨c, fw, wk, wg, ec, lc, errs, logs, f⟩
  obtain ⟨hwg, hfs, hws, hec, hlc, hend, ⟨a, b, ha, hb, hab⟩, hf⟩ := id hi
  dsimp only at *
  cases wk with
  | notStarted _ | finished => cases h
  | running rest =>
    rcases rest with ⟨_ | ⟨op, sends⟩, e⟩
    · have he := hend _ rfl
      cases e with
      | returned =>
        obtain rfl : lc = false := hlc
        cases h
        exact ⟨hwg, hfs, hws, hec, rfl, nofun, ⟨a, b, ha, by simpa using hb, hab⟩, hf⟩
      | panicked p =>
        cases h
        exact ⟨hwg, hfs, hws, hec, hlc, hend, ⟨a, b, ha, hb, hab⟩,
          fun _ hq => by cases hq; exact .inr he.symm⟩
      | blocked => cases h
    · have he : e = work.ending := hend _ rfl
      cases op with
      | log l =>
        simp only [workerStep] at h
        split at h
        · cases h
          exact hi.sendOnClosed
        · cases h
          exact ⟨hwg, hfs, hws, hec, hlc, (fun _ h => by cases h; exact he),
            ⟨a, b, ha, by simpa [WorkerPc.pendingErrs, Behaviour.errs, Send.err?] using hb, hab⟩,
            hf⟩
      | err m =>
        simp only [workerStep] at h
        split at h
        · cases h
          exact hi.sendOnClosed
        · cases h
          exact ⟨hwg, hfs, hws, hec, hlc, (fun _ h => by cases h; exact he),
            ⟨a, b ++ [m], ha,
              by rw [hb]; simp [WorkerPc.pendingErrs, Behaviour.errs, Send.err?], hab.append_right m⟩,
            hf⟩
  | done =>
    have hne := hpos rfl rfl
    simp only [workerStep, State.wgDone, Go.wgDoneOn_of_ne_zero hne, Option.some.injEq] at h
    subst h
    exact ⟨by simp only [WorkerPc.counted, Bool.toNat_false, Bool.toNat_true] at hwg ⊢; omega,
      hfs, hws, hec, hlc, nofun, ⟨a, b, ha, hb, hab⟩, hf⟩

theorem step_inv {podErrs : List String} {work : Behaviour Send} {s s' : State}
    (hi : Inv podErrs work s) (h : Step s s') : Inv podErrs work s' := by
  obtain ⟨p, hp⟩ := h
  cases p <;> simp only [step] at hp <;> split at hp <;> try contradiction
  · exact callerStep_inv hi hp
  · exact forwarderStep_inv hi hp
  · exact workerStep_inv hi hp

theorem Reaches.inv {podErrC : Option (List String)} {work : Behaviour Send} {s : State}
    (h : Reaches (initial podErrC work) s) : Inv (podErrC.getD []) work s := by
  induction h with
  | refl => exact initial_inv podErrC work
  | tail _ hst ih => exact step_inv ih hst

namespace Inv

variable {podErrs : List String} {work : Behaviour Send} {s : State}

/-- The caller is blocked only once it has returned. -/
theorem caller_of_blocked (hi : Inv podErrs work s) (h : callerStep s s.caller = none) :
    s.caller = .returned := by
  rcases s with ⟨c, fw, wk, wg, ec, lc, errs, logs, f⟩
  have hfs := hi.forwarderStarted
  have hws := hi.workerStarted
  dsimp only at h hfs hws ⊢
  cases c with
  | add1 | add2 => cases h
  | goForwarder =>
    cases fw with
    | notStarted _ => cases h
    | _ => exact absurd (hfs.mp rfl) (Nat.lt_irrefl 0)
  | goWorker =>
    cases wk with
    | notStarted _ => cases h
    | _ => exact absurd (hws.mp rfl) (Nat.lt_irrefl 1)
  | returned => rfl

/-- Once started, a worker whose code returns is blocked only once it has finished. -/
theorem worker_of_blocked (hi : Inv podErrs work s) (hwork : work.ending = .returned)
    (hc : s.caller = .returned) (h : workerStep s s.worker = none) : s.worker = .finished := by
  rcases s with ⟨c, fw, wk, wg, ec, lc, errs, logs, f⟩
  have hws := hi.workerStarted
  have hend := hi.ending
  dsimp only at h hws hend hc ⊢
  subst hc
  cases wk with
  | notStarted _ => nomatch hws.mpr Nat.one_lt_two
  | running rest =>
    rcases rest with ⟨_ | ⟨op, sends⟩, e⟩
    · obtain rfl : e = .returned := (hend _ rfl).trans hwork
      simp only [workerStep] at h
      split at h <;> cases h
    · cases op <;> simp only [workerStep] at h <;> split at h <;> cases h
  | done => cases h
  | finished => rfl

/-- With the worker finished, the forwarder is blocked only once it has finished. -/
theorem forwarder_of_blocked (hi : Inv podErrs work s) (hc : s.caller = .returned)
    (hw : s.worker = .finished) (h : forwarderStep s s.forwarder = none) :
    s.forwarder = .finished := by
  rcases s with ⟨c, fw, wk, wg, ec, lc, errs, logs, f⟩
  have hfs := hi.forwarderStarted
  have hwg := hi.wg
  dsimp only at h hfs hwg hc hw ⊢
  subst hc hw
  cases fw with
  | notStarted _ => nomatch hfs.mpr Nat.zero_lt_two
  | forwarding rest =>
    cases rest with
    | cons e rest => simp only [forwarderStep] at h; split at h <;> cases h
    | nil => cases h
  | waiting =>
    simp only [forwarderStep] at h
    split at h
    · cases h
    · simp only [ForwarderPc.counted, WorkerPc.counted, CallerPc.adds, Bool.toNat_true] at hwg
      omega
  | closing => simp only [forwarderStep] at h; split at h <;> cases h
  | finished => rfl

end Inv

/-- A state where no goroutine can act, when the worker's code returns: the process has
panicked sending on a closed channel, or all three goroutines have finished, both channels
are closed, and `errC` has carried a shuffle of `podErrC`'s errors and the worker's. -/
theorem Inv.ends {podErrs : List String} {work : Behaviour Send} {s : State}
    (hi : Inv podErrs work s) (hwork : work.ending = .returned) (hend : ∀ p, step s p = none) :
    s.fault = some .sendOnClosedChannel ∨
    (s.fault = none ∧ s.caller = .returned ∧ s.forwarder = .finished ∧ s.worker = .finished ∧
      s.errClosed = true ∧ s.logClosed = true ∧ Interleaving podErrs work.errs s.errs) := by
  cases hf : s.fault with
  | some p =>
    rcases hi.fault p hf with rfl | hp
    · exact .inl rfl
    · rw [hwork] at hp; cases hp
  | none =>
    have hc := hend .caller
    have hfw := hend .forwarder
    have hwk := hend .worker
    simp only [step, hf, Option.isSome_none, Bool.false_eq_true, ↓reduceIte] at hc hfw hwk
    have hcall := hi.caller_of_blocked hc
    have hwork' := hi.worker_of_blocked hwork hcall hwk
    have hfwd := hi.forwarder_of_blocked hcall hwork' hfw
    obtain ⟨a, b, ha, hb, hab⟩ := hi.errs
    rw [hfwd, ForwarderPc.pendingErrs, List.append_nil] at ha
    rw [hwork', WorkerPc.pendingErrs, List.append_nil] at hb
    exact .inr ⟨rfl, hcall, hfwd, hwork', hi.errClosed.mpr hfwd, by rw [hi.logClosed, hwork']; rfl,
      ha ▸ hb ▸ hab⟩

/-- A finished worker has sent every record of its code. -/
theorem Reaches.logs_of_finished {podErrC : Option (List String)} {work : Behaviour Send}
    {s : State} (h : Reaches (initial podErrC work) s) (hw : s.worker = .finished) :
    s.logs = work.logs := by
  have hlogs := Reaches.logs h
  rwa [hw, WorkerPc.pendingLogs, List.append_nil] at hlogs

/-- **Every run of `readPodLogs` ends completed, or in a send on a closed channel.** In every
interleaving, once no goroutine can act, and provided the worker's code returns: either the
process has panicked sending on a closed channel (the race of section 4), or all three
goroutines have finished, both channels are closed, `logC` has carried every record of the
worker, and `errC` a shuffle of `podErrC`'s errors and the worker's, each in its own order. -/
theorem runs_end {podErrC : Option (List String)} {work : Behaviour Send} {s : State}
    (h : Reaches (initial podErrC work) s) (hwork : work.ending = .returned)
    (hend : ∀ p, step s p = none) :
    s.fault = some .sendOnClosedChannel ∨
    (s.fault = none ∧ s.caller = .returned ∧ s.forwarder = .finished ∧ s.worker = .finished ∧
      s.errClosed = true ∧ s.logClosed = true ∧ s.logs = work.logs ∧
      Interleaving (podErrC.getD []) work.errs s.errs) :=
  (h.inv.ends hwork hend).imp_right fun ⟨hf, hc, hfw, hw, hec, hlc, hab⟩ =>
    ⟨hf, hc, hfw, hw, hec, hlc, h.logs_of_finished hw, hab⟩

/-- The run in which `podErrC` delivers a pod error and the worker's step fails, completed. -/
def twoErrorsDone : State :=
  ⟨.returned, .finished, .finished, 0, true, true, ["pod error", "step failed"], [], none⟩

theorem twoErrorsDone_schedule :
    runSchedule (initial (some ["pod error"]) ⟨[.err "step failed"], .returned⟩)
      [.caller, .caller, .caller, .caller, .forwarder, .forwarder, .worker, .worker, .worker,
        .forwarder, .forwarder] = some twoErrorsDone := rfl

/-- `podErrC` delivers a pod error and the worker's step fails: both errors reach `errC`, and
the run completes. -/
theorem runs_end_with_two_errors :
    Reaches (initial (some ["pod error"]) ⟨[.err "step failed"], .returned⟩) twoErrorsDone ∧
      (∀ p, step twoErrorsDone p = none) ∧ twoErrorsDone.fault = none ∧
      twoErrorsDone.errClosed = true ∧ twoErrorsDone.logClosed = true ∧
      Interleaving ["pod error"] ["step failed"] twoErrorsDone.errs :=
  have h := runSchedule_reaches _ twoErrorsDone_schedule
  have hend : ∀ p, step twoErrorsDone p = none := fun p => by cases p <;> rfl
  ⟨h, hend, (runs_end h rfl hend).elim (fun hf => nomatch hf)
    fun ⟨hf, _, _, _, hec, hlc, _, hab⟩ => ⟨hf, hec, hlc, hab⟩⟩

/-! ## 6. Every run is finite

No interleaving of `readPodLogs`'s goroutines goes on for ever. `State.rank` bounds the actions
left: the caller's, each of `podErrC`'s errors and each of the worker's sends, the
goroutines' closing actions, and one for a panic. Every action lowers it. So the states
`runs_end` describes are where every maximal run ends. -/

/-- The caller's actions left. -/
def CallerPc.rank : CallerPc → Nat
  | .add1 => 4
  | .goForwarder => 3
  | .add2 => 2
  | .goWorker => 1
  | .returned => 0

/-- The forwarder's actions left: one per error still to forward, then its `wg.Done()`, its
`wg.Wait()` and its close. -/
def ForwarderPc.rank : ForwarderPc → Nat
  | .notStarted errs | .forwarding errs => errs.length + 3
  | .waiting => 2
  | .closing => 1
  | .finished => 0

/-- The worker's actions left: one per send, then its close and its `wg.Done()`. -/
def WorkerPc.rank : WorkerPc → Nat
  | .notStarted work | .running work => work.sends.length + 2
  | .done => 1
  | .finished => 0

/-- The actions left to the three goroutines, at most. -/
def State.rank (s : State) : Nat :=
  s.caller.rank + s.forwarder.rank + s.worker.rank + if s.fault = none then 1 else 0

theorem State.rank_wgDone (s : State) : s.wgDone.rank ≤ s.rank :=
  Go.wgDoneOn_cases (fun t : State => t.rank ≤ s.rank)
    (by simp only [State.rank, reduceCtorEq, ↓reduceIte]; omega) fun _ => le_rfl

theorem step_rank {s s' : State} {p : Party} (h : step s p = some s') : s'.rank < s.rank := by
  rcases s with ⟨c, fw, wk, wg, ec, lc, errs, logs, _ | f⟩
  · cases p <;> simp only [step, Option.isSome_none, Bool.false_eq_true, ↓reduceIte] at h
    · cases c <;> simp only [callerStep] at h <;> (repeat' split at h) <;> cases h <;>
        simp only [State.rank, CallerPc.rank, ForwarderPc.rank, WorkerPc.rank, ↓reduceIte] <;>
        omega
    · cases fw with
      | forwarding errs =>
        cases errs with
        | cons e rest =>
          simp only [forwarderStep] at h
          split at h <;> cases h <;>
            simp only [State.rank, ForwarderPc.rank, List.length_cons, reduceCtorEq,
              ↓reduceIte] <;> omega
        | nil =>
          cases h
          refine lt_of_le_of_lt (State.rank_wgDone _) ?_
          simp only [State.rank, ForwarderPc.rank, List.length_nil, ↓reduceIte]
          omega
      | _ =>
        simp only [forwarderStep] at h
        (repeat' split at h) <;> cases h <;>
          simp only [State.rank, ForwarderPc.rank, reduceCtorEq, ↓reduceIte] <;> omega
    · cases wk with
      | done =>
        cases h
        refine lt_of_le_of_lt (State.rank_wgDone _) ?_
        simp only [State.rank, WorkerPc.rank, ↓reduceIte]
        omega
      | notStarted | finished => cases h
      | running rest =>
        rcases rest with ⟨_ | ⟨op, sends⟩, e⟩
        · cases e <;> simp only [workerStep] at h <;> (repeat' split at h) <;> cases h <;>
            simp only [State.rank, WorkerPc.rank, List.length_nil, reduceCtorEq, ↓reduceIte] <;>
            omega
        · cases op <;> simp only [workerStep] at h <;> split at h <;> cases h <;>
            simp only [State.rank, WorkerPc.rank, List.length_cons, reduceCtorEq, ↓reduceIte] <;>
            omega
  · cases p <;> simp [step] at h

/-- **Every run of `readPodLogs` is finite.** Whatever `podErrC` delivers, whatever the worker
does, and however the goroutines interleave, they act at most ten times more than there are
errors on `podErrC` and sends of the worker. -/
theorem readPodLogs_run_length_le {podErrC : Option (List String)} {work : Behaviour Send}
    {s : State} (ps : List Party) (h : runSchedule (initial podErrC work) ps = some s) :
    ps.length ≤ (podErrC.getD []).length + work.sends.length + 10 := by
  have := Go.runSchedule_length_add_rank State.rank (fun _ _ => trivial) (fun _ h => step_rank h)
    ps trivial h
  simp only [State.rank, initial, CallerPc.rank, ForwarderPc.rank, WorkerPc.rank,
    ↓reduceIte] at this
  omega

/-- The completed run with a pod error and a step error takes eleven of the twelve actions its
two errors allow. -/
theorem two_errors_run_bounded :
    [Party.caller, .caller, .caller, .caller, .forwarder, .forwarder, .worker, .worker, .worker,
      .forwarder, .forwarder].length ≤ 1 + 1 + 10 :=
  readPodLogs_run_length_le _ twoErrorsDone_schedule

/-! ## 7. When the race bites

The race of section 4 needs an error to send: `errC` is closed only by the forwarder, and
`logC` only by the worker after its last record. So some interleaving panics sending on a
closed channel exactly when the worker has an error to send. The schedule that finds it
runs the forwarder to the end of `podErrC`, through its `wg.Done()`, `wg.Wait()` and
`close(errC)`, before the caller's second `wg.Add(1)`. The worker then sends the records before
its first error, and then that error. -/

/-- A behaviour with an error to send sends some records, then its first error. -/
theorem Behaviour.exists_first_err {b : Behaviour Send} (h : b.errs ≠ []) :
    ∃ (pre : List Log) (m : String) (post : List Send),
      b.sends = pre.map Send.log ++ Send.err m :: post := by
  rcases b with ⟨sends, e⟩
  induction sends with
  | nil => exact absurd rfl h
  | cons op ops ih =>
    cases op with
    | err m => exact ⟨[], m, ops, rfl⟩
    | log l =>
      obtain ⟨pre, m, post, heq⟩ := ih (by simpa [Behaviour.errs] using h)
      exact ⟨l :: pre, m, post, by simp only at heq; simp [heq]⟩

/-- A send on a closed channel, from a state without a panic, is the worker sending an error
after `errC` was closed, or the worker's own code panicking that way. -/
theorem Inv.errs_of_sendOnClosed {podErrs : List String} {work : Behaviour Send} {s s' : State}
    {p : Party} (hi : Inv podErrs work s) (hf : s.fault = none) (h : step s p = some s')
    (h' : s'.fault = some .sendOnClosedChannel) :
    work.errs ≠ [] ∨ work.ending = .panicked .sendOnClosedChannel := by
  rcases s with ⟨c, fw, wk, wg, ec, lc, errs, logs, f⟩
  obtain ⟨-, -, -, hec, hlc, hend, ⟨a, b, -, hb, -⟩, -⟩ := hi
  dsimp only at hf hec hlc hend hb
  subst hf
  cases p <;> simp only [step, Option.isSome_none, Bool.false_eq_true, ↓reduceIte] at h
  · cases c <;> simp only [callerStep] at h <;> (repeat' split at h) <;> cases h <;> cases h'
  · cases fw with
    | forwarding rest =>
      cases rest with
      | cons e rest =>
        obtain rfl : ec = false := Bool.eq_false_iff.mpr fun h => nomatch hec.mp h
        cases h; cases h'
      | nil =>
        cases h
        exact absurd h' (State.wgDone_ne_sendOnClosed rfl)
    | _ => simp only [forwarderStep] at h; (repeat' split at h) <;> cases h <;> cases h'
  · cases wk with
    | running rest =>
      rcases rest with ⟨_ | ⟨op, sends⟩, e⟩
      · cases e with
        | panicked q => cases h; cases h'; exact .inr (hend _ rfl).symm
        | _ => simp only [workerStep] at h; (repeat' split at h) <;> cases h <;> cases h'
      · obtain rfl : lc = false := hlc
        cases op with
        | log l => cases h; cases h'
        | err m =>
          refine .inl fun hnil => ?_
          rw [hnil] at hb
          simp [WorkerPc.pendingErrs, Behaviour.errs] at hb
    | done =>
      cases h
      exact absurd h' (State.wgDone_ne_sendOnClosed rfl)
    | _ => cases h

/-- Every run that panics sending on a closed channel had an error to send, or code that
panics that way. -/
theorem Reaches.errs_of_sendOnClosed {podErrC : Option (List String)} {work : Behaviour Send}
    {s : State} (h : Reaches (initial podErrC work) s) (hf : s.fault = some .sendOnClosedChannel) :
    work.errs ≠ [] ∨ work.ending = .panicked .sendOnClosedChannel := by
  induction h with
  | refl => cases hf
  | @tail s₁ s₂ hr hst ih =>
    obtain ⟨p, hp⟩ := hst
    cases hf₁ : s₁.fault with
    | some q => cases p <;> simp [step, hf₁] at hp
    | none => exact (Reaches.inv hr).errs_of_sendOnClosed hf₁ hp hf

/-- The forwarder sends every error still to come, while `errC` is open. -/
theorem forwarder_drains (c : CallerPc) (wk : WorkerPc) (wg : Nat) (lc : Bool) (logs : List Log) :
    ∀ (rest sent : List String),
      Reaches ⟨c, .forwarding rest, wk, wg, false, lc, sent, logs, none⟩
        ⟨c, .forwarding [], wk, wg, false, lc, sent ++ rest, logs, none⟩
  | [], sent => by rw [List.append_nil]; exact .refl
  | e :: rest, sent => by
    have h := forwarder_drains c wk wg lc logs rest (sent ++ [e])
    rw [List.append_assoc, List.singleton_append] at h
    exact .head ⟨.forwarder, rfl⟩ h

/-- The worker sends records, while `logC` is open. -/
theorem worker_sends_logs (c : CallerPc) (fw : ForwarderPc) (wg : Nat) (ec : Bool)
    (errs : List String) (post : List Send) (e : Ending) :
    ∀ (pre sent : List Log),
      Reaches ⟨c, fw, .running ⟨pre.map Send.log ++ post, e⟩, wg, ec, false, errs, sent, none⟩
        ⟨c, fw, .running ⟨post, e⟩, wg, ec, false, errs, sent ++ pre, none⟩
  | [], sent => by rw [List.append_nil]; exact .refl
  | l :: pre, sent => by
    have h := worker_sends_logs c fw wg ec errs post e pre (sent ++ [l])
    rw [List.append_assoc, List.singleton_append] at h
    exact .head ⟨.worker, rfl⟩ h

/-- With an error to send, the worker sends it on the closed `errC` in some interleaving. -/
theorem race_of_errs {podErrC : Option (List String)} {work : Behaviour Send}
    (h : work.errs ≠ []) :
    ∃ s, Reaches (initial podErrC work) s ∧ s.fault = some .sendOnClosedChannel := by
  obtain ⟨pre, m, post, heq⟩ := Behaviour.exists_first_err h
  rcases work with ⟨sends, e⟩
  dsimp only at heq
  subst heq
  -- The caller starts the forwarder, which drains `podErrC` and closes `errC`.
  have h₁ : Reaches (initial podErrC ⟨pre.map Send.log ++ Send.err m :: post, e⟩)
      ⟨.add2, .forwarding (podErrC.getD []), .notStarted ⟨pre.map Send.log ++ Send.err m :: post, e⟩,
        1, false, false, [], [], none⟩ :=
    .tail (.tail .refl ⟨.caller, rfl⟩) ⟨.caller, rfl⟩
  have h₂ := h₁.trans (forwarder_drains _ _ 1 false [] (podErrC.getD []) [])
  have h₃ : Reaches _ ⟨.add2, .finished, .notStarted ⟨pre.map Send.log ++ Send.err m :: post, e⟩,
      0, true, false, podErrC.getD [], [], none⟩ :=
    ((h₂.tail ⟨.forwarder, rfl⟩).tail ⟨.forwarder, rfl⟩).tail ⟨.forwarder, rfl⟩
  -- The caller then counts and starts the worker, which sends its records and its error.
  have h₄ := ((h₃.tail ⟨.caller, rfl⟩).tail ⟨.caller, rfl⟩).trans
    (worker_sends_logs _ _ 1 true _ (Send.err m :: post) e pre [])
  exact ⟨_, h₄.tail ⟨.worker, rfl⟩, rfl⟩

/-- **The race bites exactly when the worker has an error to send.** For every `podErrC` and
every worker whose own code does not panic sending on a closed channel, some interleaving of
`readPodLogs`'s goroutines panics that way if and only if the worker sends an error. -/
theorem race_iff_errs {podErrC : Option (List String)} {work : Behaviour Send}
    (hwork : work.ending ≠ .panicked .sendOnClosedChannel) :
    (∃ s, Reaches (initial podErrC work) s ∧ s.fault = some .sendOnClosedChannel) ↔
      work.errs ≠ [] :=
  ⟨fun ⟨_, h, hf⟩ => (h.errs_of_sendOnClosed hf).resolve_right hwork, race_of_errs⟩

/-- The failed attempt's step error: the race bites. A worker with only records: it cannot. -/
theorem race_iff_step_error :
    ((∃ s, Reaches (initial none ⟨[.log (buildReader.logOf ⟨"run", "step-run", {}⟩ "r0"),
        .err "step run failed"], .returned⟩) s ∧ s.fault = some .sendOnClosedChannel) ↔
      Behaviour.errs ⟨[.log (buildReader.logOf ⟨"run", "step-run", {}⟩ "r0"),
        .err "step run failed"], .returned⟩ ≠ []) ∧
    ((∃ s, Reaches (initial none ⟨[.log (buildReader.logOf ⟨"run", "step-run", {}⟩ "r0")],
        .returned⟩) s ∧ s.fault = some .sendOnClosedChannel) ↔
      Behaviour.errs ⟨[.log (buildReader.logOf ⟨"run", "step-run", {}⟩ "r0")], .returned⟩ ≠ []) :=
  ⟨race_iff_errs nofun, race_iff_errs nofun⟩

end PodLogs

end TaskReader
end TektonLogs
