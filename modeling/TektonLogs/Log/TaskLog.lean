import TektonLogs.Log.LiveLogs
import TektonLogs.Log.TaskLogs

/-!
# `readTaskLog`: naming the task, then reading it live or from its snapshot

`readTaskLog` is a task reader's entry point. It fetches the task run with `GetTaskRun`,
names the task (`formTaskName`), and then follows the run live (`readLiveTaskLogs`) when the
reader follows and the run is not done, or else reads the pods the snapshot names
(`readAvailableTaskLogs`). `formTaskName` changes the reader itself (a pointer receiver),
so every goroutine started afterwards sees the new name.

`formTaskName` reads three things that `TaskRun` and `Reader` do not carry here: the run's
labels, the name its `Spec.TaskRef` refers to, and the reader's `number`. They are its
arguments (`TaskRunRefs`, `number`).

What the model shows:

* `readTaskLog_records` — in either mode and in every interleaving, every record `logC` has
  carried names the task as `formTaskName` named it, under the reader's display name. The
  step is `Named`, which holds of every piece of code that sends records: the select
  loop, `readStepsLogs`, one pod's iteration and the whole log worker.
-/

set_option autoImplicit false

namespace TektonLogs
namespace TaskReader

open V1 Go Pods

/-! ## 1. The model -/

/-- `MsgTRNotFoundErr`. -/
def msgTRNotFoundErr : String := "Unable to get TaskRun"

/-- What `formTaskName` reads of a task run besides `TaskRun`'s fields: its labels (a Go map,
so each key at most once) and the name its `Spec.TaskRef` refers to, if it has one. -/
structure TaskRunRefs where
  labels : List (String × String)
  taskRef : Option String
  deriving DecidableEq, Repr

/-- `formTaskName`: the reader, with its task named unless it already was. -/
def formTaskName (r : Reader) (number : Int) (refs : TaskRunRefs) : Reader :=
  if r.task ≠ "" then r
  else
    match refs.labels.lookup "tekton.dev/pipelineTask" with
    | some name => { r with task := name }
    | none =>
      match refs.taskRef with
      | some name => { r with task := name }
      | none => { r with task := "Task " ++ toString number }

/-- What `readTaskLog` starts. -/
inductive Started where
  /-- `readLiveTaskLogs`'s four goroutines. -/
  | live (s : LiveLogs.State)
  /-- `readAvailableTaskLogs`: the lines it wrote to the error stream, and the goroutines of
  `readPodLogs`. -/
  | available (streamErr : List String) (s : PodLogs.State)
  deriving DecidableEq, Repr

/-- `readTaskLog`, over what `GetTaskRun` answers, what the watch delivers and the pods the
cluster answers for: its error, or the reader as `formTaskName` left it and what it started. -/
def readTaskLog (r : Reader) (number : Int) (getTaskRun : Except String (TaskRun × TaskRunRefs))
    (watch : Except String (List WatchInput)) (cluster : String → Pods.Pod) :
    Except String (Reader × Started) :=
  match getTaskRun with
  | .error e => .error (msgTRNotFoundErr ++ ": " ++ e)
  | .ok (tr, refs) =>
    let r := formTaskName r number refs
    if !tr.isDone && r.follow then (LiveLogs.readLiveTaskLogs r tr watch).map fun s => (r, .live s)
    else (readAvailableTaskLogs r tr cluster).map fun (streamErr, s) => (r, .available streamErr s)

/-- `formTaskName` changes nothing but the task's name. -/
theorem formTaskName_eq (r : Reader) (number : Int) (refs : TaskRunRefs) :
    formTaskName r number refs = { r with task := (formTaskName r number refs).task } := by
  unfold formTaskName
  split
  · rfl
  · split
    · rfl
    · split <;> rfl

/-! ## 2. Every record names its task -/

/-- Every record a piece of code sends names the reader's task and display name. -/
def Named (r : Reader) (b : Behaviour Send) : Prop :=
  ∀ l ∈ b.logs, l.task = r.task ∧ l.taskDisplayName = r.displayName

namespace Named

variable {r : Reader}

theorem done : Named r .done := fun _ h => nomatch h

theorem of_logs_nil {b : Behaviour Send} (h : b.logs = []) : Named r b :=
  fun _ hl => nomatch h ▸ hl

theorem cons_log (s : Step) (line : String) {b : Behaviour Send} (h : Named r b) :
    Named r (.cons (.log (r.logOf s line)) b) := by
  intro l hl
  rw [Behaviour.logs_cons] at hl
  rcases List.mem_append.mp hl with hl | hl
  · obtain rfl : l = r.logOf s line := by simpa using hl
    exact ⟨rfl, rfl⟩
  · exact h l hl

theorem cons_err (e : String) {b : Behaviour Send} (h : Named r b) : Named r (.cons (.err e) b) := by
  intro l hl
  rw [Behaviour.logs_cons] at hl
  exact h l (by simpa using hl)

theorem andThen {b k : Behaviour Send} (hb : Named r b) (hk : Named r k) :
    Named r (b.andThen k) := by
  intro l hl
  unfold Behaviour.andThen at hl
  split at hl
  · simp only [Behaviour.logs, List.filterMap_append, List.mem_append] at hl
    exact hl.elim (hb l) (hk l)
  · exact hb l hl

end Named

theorem selectLoop_named (r : Reader) (s : Step) (lineOpen errOpen : Bool)
    (ds : List Delivery) : Named r (selectLoop r s lineOpen errOpen ds) := by
  induction lineOpen, errOpen, ds using selectLoop.induct r s with
  | case1 => rw [selectLoop]; exact Named.done
  | case2 _ _ h => rw [selectLoop]; exacts [Named.of_logs_nil rfl, h]
  | case3 _ _ l _ h ih => rw [selectLoop]; exacts [ih.cons_log s l, h]
  | case4 _ _ _ h ih => rw [selectLoop]; exacts [ih.cons_log s eofLog, h]
  | case5 _ _ e _ h ih => rw [selectLoop]; exacts [ih.cons_err _, h]
  | case6 _ _ _ h ih => rw [selectLoop]; exacts [ih, h]

theorem readStepsLogs_named (r : Reader) (steps : List Step) (pod : Pods.Pod)
    (follow timestamps : Bool) : Named r (readStepsLogs r steps pod follow timestamps) := by
  induction steps with
  | nil => exact Named.done
  | cons step rest ih =>
    simp only [readStepsLogs]
    split
    · exact ih
    · split
      · exact ih.cons_err _
      · exact (selectLoop_named r step true true _).andThen (by split; exacts [Named.done.cons_err _, ih])

theorem streamPod_named (r : Reader) (p : Pods.Pod) (follow timestamps : Bool) :
    Named r (streamPod r p follow timestamps) := by
  unfold streamPod
  split
  · exact Named.of_logs_nil rfl
  · exact Named.of_logs_nil rfl
  · refine Named.andThen (by split; exacts [Named.done.cons_err _, Named.done]) ?_
    split
    · exact Named.of_logs_nil rfl
    · exact readStepsLogs_named r _ p follow timestamps

theorem logWorker_named (r : Reader) (cluster : String → Pods.Pod) (follow timestamps : Bool)
    (names : List String) : Named r (logWorker r cluster follow timestamps names) := by
  induction names with
  | nil => exact Named.done
  | cons n ns ih => exact (streamPod_named r (cluster n) follow timestamps).andThen ih

/-- **Every record names its task.** When `readTaskLog` starts its goroutines, in either mode
and in every interleaving of them, every record `logC` has carried names the task as
`formTaskName` named it, and the reader's display name. -/
theorem readTaskLog_records (r : Reader) (number : Int)
    (getTaskRun : Except String (TaskRun × TaskRunRefs)) (watch : Except String (List WatchInput))
    (cluster : String → Pods.Pod) (r' : Reader) (started : Started)
    (h : readTaskLog r number getTaskRun watch cluster = .ok (r', started)) :
    (∃ tr refs, getTaskRun = .ok (tr, refs) ∧ r' = formTaskName r number refs) ∧
    (∀ s₀ s, started = .live s₀ → LiveLogs.Reaches (LiveLogs.liveWork r' cluster) s₀ s →
      ∀ l ∈ s.logs, l.task = r'.task ∧ l.taskDisplayName = r.displayName) ∧
    (∀ streamErr s₀ s, started = .available streamErr s₀ → PodLogs.Reaches s₀ s →
      ∀ l ∈ s.logs, l.task = r'.task ∧ l.taskDisplayName = r.displayName) := by
  rcases getTaskRun with e | ⟨tr, refs⟩
  · cases h
  have hdisp : (formTaskName r number refs).displayName = r.displayName := by
    rw [formTaskName_eq]
  simp only [readTaskLog] at h
  split at h
  · -- Live: the records of the pods the worker has taken.
    cases hl : LiveLogs.readLiveTaskLogs (formTaskName r number refs) tr watch with
    | error e => rw [hl] at h; cases h
    | ok s₀ =>
      rw [hl] at h
      cases h
      refine ⟨⟨tr, refs, rfl, rfl⟩, fun s₀' s hst hs l hmem => ?_, fun _ _ _ hst => nomatch hst⟩
      cases hst
      obtain ⟨inputs, rfl, rfl⟩ := LiveLogs.readLiveTaskLogs_eq_ok hl
      obtain ⟨-, hd⟩ := LiveLogs.Reaches.order (LiveLogs.liveWork_channel_safe _ cluster)
        (podNamesGoroutine_closes _ tr inputs) (LiveLogs.podNamesGoroutine_channel_safe _ tr inputs)
        hs
      have hmem' : l ∈ s.delivered := List.mem_append_left _ hmem
      rw [hd] at hmem'
      obtain ⟨n, -, hn⟩ := List.mem_flatMap.mp hmem'
      rw [← hdisp]
      exact streamPod_named _ (cluster n) _ _ l hn
  · -- Available: the records of the log worker.
    cases ha : readAvailableTaskLogs (formTaskName r number refs) tr cluster with
    | error e => rw [ha] at h; cases h
    | ok res =>
      rcases res with ⟨streamErr₀, s₀⟩
      rw [ha] at h
      cases h
      refine ⟨⟨tr, refs, rfl, rfl⟩, (fun _ _ hst => nomatch hst),
        fun streamErr s₀ s hst hs l hmem => ?_⟩
      cases hst
      obtain ⟨-, -, -, -, rfl⟩ := (readAvailableTaskLogs_ok _ tr cluster _ _).mp ha
      have hmem' := PodLogs.Reaches.logs hs ▸ List.mem_append_left _ hmem
      rw [← hdisp]
      exact logWorker_named _ cluster false _ _ l hmem'

/-- An unnamed reader of the retried run, whose `pipelineTask` label is `build`: the completed
run's records all name `build`. -/
theorem retriedRun_records_named :
    retriedRunDone.logs.Forall fun l => l.task = "build" ∧ l.taskDisplayName = "Build" :=
  List.forall_iff_forall_mem.mpr <| (readTaskLog_records { buildReader with task := "" } 0
    (.ok (retriedRun, ⟨[("tekton.dev/pipelineTask", "build")], none⟩)) (.error "unused")
    PodLogs.retryCluster buildReader _ rfl).2.2 [] _ _ rfl retriedRunDone_reached

end TaskReader
end TektonLogs
