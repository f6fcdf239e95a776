import TektonLogs.Log.PodLogs

/-!
# `readAvailableTaskLogs`: a task's pods, one attempt after another

When the reader does not follow (or the task run is done), it takes the pod names from the
task run snapshot it has: a goroutine sends each retry's pod name, oldest first, then the
current pod's, on `podC`, and closes it; `readPodLogs` reads them with a nil `podErrC`, not
following. Before that, three checks on the snapshot can end the call with an error.

The goroutine that feeds `podC` is sequential and the log worker is its only receiver, so
the worker's loop sees exactly `availablePodNames`, in order.

What the model shows, when every `Get` succeeds:

* `readAvailableTaskLogs_logs` — in every interleaving, what `logC` has carried and what the
  worker has still to send are, together, each attempt's step records in attempt order
  (`availableRecords`): the consumer never sees a record of a later attempt before one of an
  earlier attempt, and it sees them all once the worker is done;
* `readAvailableTaskLogs_drops_current_attempt` — the worker need not get there: the wait
  group's race of `readPodLogs` closes `errC` early, the failed attempt's step error is sent
  on it, and the process panics before the current attempt's records are sent.
* `readAvailableTaskLogs_ends` — that panic is the only way a run stops short: any other run
  stops with both channels closed and every attempt's records and errors delivered.
* `readAvailableTaskLogs_race_iff` — and it can happen exactly when some attempt reports an
  error.
-/

set_option autoImplicit false

namespace TektonLogs
namespace TaskReader

open V1 Go Pods

/-! ## 1. The model -/

/-- The names the goroutine of `readAvailableTaskLogs` sends on `podC` before closing it:
each retry's pod, oldest first, then the current one. -/
def availablePodNames (tr : TaskRun) : List String :=
  tr.status.retriesStatus.map (·.podName) ++ [tr.status.podName]

/-- `readAvailableTaskLogs`: the error it returns, or the lines it wrote to the error stream
and the `readPodLogs` it started, over the pods `cluster` answers for. -/
def readAvailableTaskLogs (r : Reader) (tr : TaskRun) (cluster : String → Pods.Pod) :
    Except String (List String × PodLogs.State) := do
  if !tr.hasStarted then throw ("task " ++ r.task ++ " has not started yet")
  let streamErr ← match hasTaskRunFailed tr r.task with
    | some e => if r.hasStream then pure [e ++ "\n"] else throw e
    | none => pure []
  if tr.status.podName = "" then throw ("pod for taskrun " ++ tr.name ++ " not available yet")
  pure (streamErr,
    PodLogs.initial none (logWorker r cluster false r.timestamps (availablePodNames tr)))

/-- The call succeeds exactly on a started run with a pod name that has not failed, or has
failed with an error stream attached; it then starts `readPodLogs` over the run's pods. -/
theorem readAvailableTaskLogs_ok (r : Reader) (tr : TaskRun) (cluster : String → Pods.Pod)
    (streamErr : List String) (s₀ : PodLogs.State) :
    readAvailableTaskLogs r tr cluster = .ok (streamErr, s₀) ↔
      tr.hasStarted ∧ (hasTaskRunFailed tr r.task = none ∨ r.hasStream) ∧
      tr.status.podName ≠ "" ∧
      streamErr = (hasTaskRunFailed tr r.task).toList.map (· ++ "\n") ∧
      s₀ = PodLogs.initial none (logWorker r cluster false r.timestamps (availablePodNames tr)) := by
  unfold readAvailableTaskLogs
  cases tr.hasStarted <;> cases hasTaskRunFailed tr r.task <;> cases r.hasStream <;>
    by_cases hp : tr.status.podName = "" <;>
    simp [hp, throw, throwThe, MonadExceptOf.throw, bind, Except.bind, pure, Except.pure, eq_comm]

/-- The call fails with the message of the first check that fails: a run that has not
started; then a failed run with no error stream attached, with `hasTaskRunFailed`'s text;
then a run with no pod name yet. -/
theorem readAvailableTaskLogs_error (r : Reader) (tr : TaskRun) (cluster : String → Pods.Pod)
    (e : String) :
    readAvailableTaskLogs r tr cluster = .error e ↔
      (tr.hasStarted = false ∧ e = "task " ++ r.task ++ " has not started yet") ∨
      (tr.hasStarted = true ∧ r.hasStream = false ∧ hasTaskRunFailed tr r.task = some e) ∨
      (tr.hasStarted = true ∧ (hasTaskRunFailed tr r.task = none ∨ r.hasStream = true) ∧
        tr.status.podName = "" ∧ e = "pod for taskrun " ++ tr.name ++ " not available yet") := by
  unfold readAvailableTaskLogs
  cases tr.hasStarted <;> cases hasTaskRunFailed tr r.task <;> cases r.hasStream <;>
    by_cases hp : tr.status.podName = "" <;>
    simp [hp, throw, throwThe, MonadExceptOf.throw, bind, Except.bind, pure, Except.pure, eq_comm]

/-! ## 2. When every `Get` succeeds -/

/-- Every fetch answers with a snapshot and no error. -/
def GetsSucceed (cluster : String → Pods.Pod) (names : List String) : Prop :=
  ∀ n ∈ names, (cluster n).get.err = none ∧ (cluster n).get.pod.isSome

instance (cluster : String → Pods.Pod) (names : List String) :
    Decidable (GetsSucceed cluster names) :=
  inferInstanceAs (Decidable (∀ n ∈ names, _ ∧ _))

/-- What the log channel is to carry: for each pod name in order, the records `readStepsLogs`
sends for the pod's filtered steps, not following. -/
def availableRecords (r : Reader) (cluster : String → Pods.Pod) (names : List String) :
    List Log :=
  names.flatMap fun n =>
    match (cluster n).get.pod with
    | some pod =>
      (readStepsLogs r (filterSteps pod r.allSteps r.steps) (cluster n) false r.timestamps).logs
    | none => []

/-- With every fetch succeeding, the worker streams each pod in turn and returns. -/
theorem logWorker_of_gets_succeed (r : Reader) (cluster : String → Pods.Pod)
    (names : List String) (h : GetsSucceed cluster names) :
    (logWorker r cluster false r.timestamps names).ending = .returned ∧
    (logWorker r cluster false r.timestamps names).logs = availableRecords r cluster names := by
  induction names with
  | nil => exact ⟨rfl, rfl⟩
  | cons n ns ih =>
    obtain ⟨⟨herr, hpod⟩, hrest⟩ := List.forall_mem_cons.mp h
    obtain ⟨pod, hget⟩ := Option.isSome_iff_exists.mp hpod
    obtain ⟨ih1, ih2⟩ := ih hrest
    have hstream : streamPod r (cluster n) false r.timestamps =
        readStepsLogs r (filterSteps pod r.allSteps r.steps) (cluster n) false r.timestamps := by
      simp only [streamPod, Bool.false_eq_true, ite_false, herr, hget, Behaviour.done_andThen]
    have hret := readStepsLogs_returns r (filterSteps pod r.allSteps r.steps) (cluster n) false
      r.timestamps
    simp only [logWorker, availableRecords, List.flatMap_cons, hget] at ih2 ⊢
    rw [hstream, Behaviour.ending_andThen_of_returned hret, Behaviour.logs_andThen_of_returned hret,
      ih1, ih2]
    exact ⟨rfl, rfl⟩

/-! ## 3. The race drops the current attempt -/

/-- A task retried once: the failed attempt `build-pod-retry1`, then the current `build-pod`. -/
def retriedRun : TaskRun :=
  { name := "build-run"
    status := { podName := "build-pod", startTime := some "t0"
                retriesStatus := [⟨"build-pod-retry1"⟩] } }

/-- The step each attempt's pod runs. -/
def runStep : Step := ⟨"run", "step-run", {}⟩

/-- **The current attempt's records are lost.** Every fetch succeeds, and the records due are
both attempts', in order. But `readPodLogs` lets the forwarder close `errC` before the
worker is counted; the worker streams the failed attempt and sends its step error on the
closed `errC`, and the process panics with only the first attempt's records sent. -/
theorem readAvailableTaskLogs_drops_current_attempt :
    GetsSucceed PodLogs.retryCluster (availablePodNames retriedRun) ∧
    availableRecords buildReader PodLogs.retryCluster (availablePodNames retriedRun) =
      [buildReader.logOf runStep "r0", buildReader.logOf runStep eofLog,
        buildReader.logOf runStep "r1", buildReader.logOf runStep eofLog] ∧
    ∃ s₀ s, readAvailableTaskLogs buildReader retriedRun PodLogs.retryCluster = .ok ([], s₀) ∧
      PodLogs.Reaches s₀ s ∧ s.fault = some .sendOnClosedChannel ∧
      (∀ p, PodLogs.step s p = none) ∧
      s.logs = [buildReader.logOf runStep "r0", buildReader.logOf runStep eofLog] :=
  ⟨by decide, rfl, _, _, rfl,
    Go.runSchedule_reaches [.caller, .caller, .forwarder, .forwarder, .forwarder, .caller,
      .caller, .worker, .worker, .worker] rfl, rfl, fun p => by cases p <;> rfl, rfl⟩

/-! ## 4. What every run delivers

When every fetch succeeds, the race is the only thing that goes wrong. In every interleaving,
the attempts' records arrive in attempt order. Every run that stops short of completing has
panicked in the race. The retried run of section 3, scheduled without the race, completes. -/

/-- The retried run, completed: both attempts' records sent, and the failed attempt's step
error. -/
def retriedRunDone : PodLogs.State :=
  ⟨.returned, .finished, .finished, 0, true, true, ["step run failed"],
    [buildReader.logOf runStep "r0", buildReader.logOf runStep eofLog,
      buildReader.logOf runStep "r1", buildReader.logOf runStep eofLog], none⟩

/-- With both goroutines counted before the forwarder runs, the race is avoided. -/
theorem retriedRunDone_reached :
    PodLogs.Reaches (PodLogs.initial none
      (logWorker buildReader PodLogs.retryCluster false false (availablePodNames retriedRun)))
      retriedRunDone :=
  Go.runSchedule_reaches [.caller, .caller, .caller, .caller, .worker, .worker, .worker,
    .worker, .worker, .worker, .worker, .forwarder, .forwarder, .forwarder] rfl

/-- **Attempts are never reordered.** In every interleaving of `readPodLogs`'s goroutines
started by `readAvailableTaskLogs`, with every fetch succeeding, `logC` has carried a prefix
of the attempts' records in attempt order, and the worker has the rest still to send. -/
theorem readAvailableTaskLogs_logs (r : Reader) (tr : TaskRun) (cluster : String → Pods.Pod)
    (streamErr : List String) (s₀ s : PodLogs.State)
    (hok : readAvailableTaskLogs r tr cluster = .ok (streamErr, s₀))
    (hget : GetsSucceed cluster (availablePodNames tr)) (hs : PodLogs.Reaches s₀ s) :
    s.logs ++ s.worker.pendingLogs = availableRecords r cluster (availablePodNames tr) := by
  obtain ⟨-, -, -, -, rfl⟩ := (readAvailableTaskLogs_ok r tr cluster streamErr s₀).mp hok
  rw [PodLogs.Reaches.logs hs, (logWorker_of_gets_succeed r cluster _ hget).2]

/-- The completed retried run has carried both attempts' records, in attempt order. -/
theorem retriedRunDone_in_order :
    retriedRunDone.logs ++ retriedRunDone.worker.pendingLogs =
      availableRecords buildReader PodLogs.retryCluster (availablePodNames retriedRun) :=
  readAvailableTaskLogs_logs buildReader retriedRun PodLogs.retryCluster [] _ _ rfl (by decide)
    retriedRunDone_reached

/-- **Every run of `readAvailableTaskLogs` delivers every attempt, or panics in the race.** When
every fetch succeeds, in every interleaving that can go no further: either the process has
panicked sending on a closed channel, or both channels are closed, `logC` has carried each
attempt's records in attempt order, and `errC` exactly the worker's errors, in order. -/
theorem readAvailableTaskLogs_ends (r : Reader) (tr : TaskRun) (cluster : String → Pods.Pod)
    (streamErr : List String) (s₀ s : PodLogs.State)
    (hok : readAvailableTaskLogs r tr cluster = .ok (streamErr, s₀))
    (hget : GetsSucceed cluster (availablePodNames tr)) (hs : PodLogs.Reaches s₀ s)
    (hend : ∀ p, PodLogs.step s p = none) :
    s.fault = some .sendOnClosedChannel ∨
    (s.fault = none ∧ s.errClosed = true ∧ s.logClosed = true ∧
      s.logs = availableRecords r cluster (availablePodNames tr) ∧
      s.errs = (logWorker r cluster false r.timestamps (availablePodNames tr)).errs) := by
  obtain ⟨-, -, -, -, rfl⟩ := (readAvailableTaskLogs_ok r tr cluster streamErr s₀).mp hok
  obtain ⟨hret, hlogs⟩ := logWorker_of_gets_succeed r cluster _ hget
  exact (hs.inv.ends hret hend).imp_right fun ⟨hf, _, _, hw, hec, hlc, he⟩ =>
    ⟨hf, hec, hlc, (hs.logs_of_finished hw).trans hlogs, he.eq_of_nil_left⟩

/-- Without the race, the retried run stops completed, with both attempts delivered whole. -/
theorem retriedRun_delivered :
    (∀ p, PodLogs.step retriedRunDone p = none) ∧ retriedRunDone.fault = none ∧
      retriedRunDone.logs =
        availableRecords buildReader PodLogs.retryCluster (availablePodNames retriedRun) :=
  have hend : ∀ p, PodLogs.step retriedRunDone p = none := fun p => by cases p <;> rfl
  ⟨hend, (readAvailableTaskLogs_ends buildReader retriedRun PodLogs.retryCluster [] _ _ rfl
    (by decide) retriedRunDone_reached hend).elim (fun hf => nomatch hf)
    fun ⟨hf, _, _, hl, _⟩ => ⟨hf, hl⟩⟩

/-- The log worker's own code never panics sending on a closed channel: each pod's iteration
ends blocked, in the panic of its `Wait`, on a nil pod, or returned. -/
theorem logWorker_ending_ne (r : Reader) (cluster : String → Pods.Pod) (follow timestamps : Bool)
    (names : List String) :
    (logWorker r cluster follow timestamps names).ending ≠ .panicked .sendOnClosedChannel := by
  induction names with
  | nil => nofun
  | cons n ns ih =>
    by_cases hret : (streamPod r (cluster n) follow timestamps).ending = .returned
    · rw [logWorker, Behaviour.ending_andThen_of_returned hret]; exact ih
    · rw [logWorker, Behaviour.andThen_of_not_returned hret, streamPod_ending]
      split
      · nofun
      · nofun
      · split <;> nofun

/-- **Available mode can crash exactly when an attempt reports an error.** Whatever the
cluster answers, once `readAvailableTaskLogs` has started `readPodLogs`, some interleaving
panics sending on a closed channel if and only if the log worker has an error to send: a
failed fetch, a failed `Read`, a container's error, or a failed `Status()`. -/
theorem readAvailableTaskLogs_race_iff (r : Reader) (tr : TaskRun) (cluster : String → Pods.Pod)
    (streamErr : List String) (s₀ : PodLogs.State)
    (hok : readAvailableTaskLogs r tr cluster = .ok (streamErr, s₀)) :
    (∃ s, PodLogs.Reaches s₀ s ∧ s.fault = some .sendOnClosedChannel) ↔
      (logWorker r cluster false r.timestamps (availablePodNames tr)).errs ≠ [] := by
  obtain ⟨-, -, -, -, rfl⟩ := (readAvailableTaskLogs_ok r tr cluster streamErr s₀).mp hok
  exact ⟨fun ⟨_, h, hf⟩ => (h.errs_of_sendOnClosed hf).resolve_right
    (logWorker_ending_ne r cluster false r.timestamps _), PodLogs.race_of_errs⟩

/-- The retried run's failed attempt reports its step error, so the race can bite. -/
theorem retriedRun_race_reachable :
    ∃ s, PodLogs.Reaches (PodLogs.initial none (logWorker buildReader PodLogs.retryCluster false
      false (availablePodNames retriedRun))) s ∧ s.fault = some .sendOnClosedChannel :=
  (readAvailableTaskLogs_race_iff buildReader retriedRun PodLogs.retryCluster [] _ rfl).mpr
    (by decide)

end TaskReader
end TektonLogs
