import TektonLogs.Log.Reader
import TektonLogs.Go.Behaviour

/-!
# `getTaskRunPodNames`: live discovery of a task's pods

In follow mode the reader does not know all of a task's pods up front: a retry creates a new
pod, and the task run's status names it once it exists. `getTaskRunPodNames` opens a watch
on the task run and starts a goroutine that

1. sends the pod names the task run already records — each retry's, oldest first, then the
   current one — through `addPod`, which sends a name only the first time;
2. loops on a `select` between the watch's events and a one-shot activity timeout: each
   event's task run has its current pod name added, and discovery ends once that run has a
   pod name and no retry scheduled; the timeout ends discovery, with an error unless the
   run has started and has a pod name (a run with retries still scheduled keeps watching);
3. closes `podC` and `errC` when it returns.

If the watch closes its result channel, the `select` takes the zero `watch.Event`, whose
object is nil, and `cast2taskrun` dereferences it: the goroutine panics.

The goroutine is sequential, so it is modelled as a function of the inputs in the order its
`select` takes them (`WatchInput`), producing the trace of its channel operations (`NameOp`).
The trace records what the goroutine receives too, so "the events it processes" is read off
the trace, and `Takes` ties it to the inputs.

Proved here:

* `podNamesGoroutine_dedups` — the goroutine takes the inputs the `select` can take, in order,
  up to the one that ends discovery (all of them if it blocks); the names sent are exactly
  the first-occurrence deduplication (`List.eraseDups`) of the names the initial run and every
  event taken carry; none is sent twice; discovery returns right after a stopping event; at
  most one error is sent and nothing but the closes follows it; both channels are closed
  once, last.
* `podNamesGoroutine_panics` — its one panic is that nil dereference.
* `podNamesGoroutine_loses_retry` — an event's `RetriesStatus` is never read, so a retry
  whose pod was never the current pod of a snapshot the goroutine saw is never sent.
-/

set_option autoImplicit false

namespace TektonLogs
namespace TaskReader

open V1 Go

/-! ## 1. The model -/

/-- What the goroutine's `select` takes: a watch event's object, the activity timeout, or the
zero `watch.Event` of a result channel the watch has closed, whose `Object` is nil. -/
inductive WatchInput where
  | event (obj : RuntimeObject)
  | timeout
  | closed
  deriving DecidableEq, Repr

/-- One channel operation of the discovery goroutine. -/
inductive NameOp where
  /-- The `select` takes an input. -/
  | recv (x : WatchInput)
  /-- `podC <- name`. -/
  | pod (name : String)
  /-- `errC <- err`. -/
  | err (e : String)
  /-- The deferred `close(podC)`. -/
  | closePodC
  /-- The deferred `close(errC)`. -/
  | closeErrC
  deriving DecidableEq, Repr

/-- `addPod`, with `podMap` the names already sent. -/
def addPod (podMap : List String) (name : String) : List String × List NameOp :=
  if podMap.elem name then (podMap, []) else (name :: podMap, [.pod name])

/-- `addPod` over a list of names, in order. -/
def addPods (podMap : List String) : List String → List String × List NameOp
  | [] => (podMap, [])
  | n :: ns =>
    let (m, ops) := addPod podMap n
    let (m', ops') := addPods m ns
    (m', ops ++ ops')

/-- The names the goroutine adds before watching: each retry's pod, then the current one. -/
def initialPodNames (run : TaskRun) : List String :=
  run.status.retriesStatus.map (·.podName) ++
    if run.status.podName ≠ "" then [run.status.podName] else []

/-- The timeout's error when the run has not started or has no pod name. -/
def notAvailableErr (r : Reader) : String :=
  "task " ++ r.task ++ " has not started yet or pod for task not yet available"

/-- The `for { select { ... } }` loop, from the last task run seen, the names sent, and
whether the one-shot timeout can still fire. A timeout after it has fired is never taken. -/
def podNamesLoop (r : Reader) : TaskRun → List String → Bool → List WatchInput →
    Behaviour NameOp
  | _, _, _, [] => ⟨[], .blocked⟩
  | _, podMap, timer, .event obj :: rest =>
    Behaviour.cons (.recv (.event obj)) <|
      match cast2taskrun obj with
      | .error e => ⟨[.err e], .returned⟩
      | .ok run =>
        if run.status.podName ≠ "" then
          Behaviour.sendAll (addPod podMap run.status.podName).2
            (if areRetriesScheduled run r.retries then
              podNamesLoop r run (addPod podMap run.status.podName).1 timer rest
            else .done)
        else podNamesLoop r run podMap timer rest
  | run, podMap, true, .timeout :: rest =>
    Behaviour.cons (.recv .timeout) <|
      match hasTaskRunFailed run r.task with
      | some e => ⟨[.err e], .returned⟩
      | none =>
        if run.hasStarted && run.status.podName ≠ "" then
          if areRetriesScheduled run r.retries then podNamesLoop r run podMap false rest
          else .done
        else ⟨[.err (notAvailableErr r)], .returned⟩
  | run, podMap, false, .timeout :: rest => podNamesLoop r run podMap false rest
  | _, _, _, .closed :: _ =>
    -- `cast2taskrun(nil)` dereferences the nil object.
    Behaviour.cons (.recv .closed) ⟨[], .panicked .nilPointerDereference⟩

/-- The goroutine `getTaskRunPodNames` starts, over the inputs its `select` takes. -/
def podNamesGoroutine (r : Reader) (run : TaskRun) (inputs : List WatchInput) :
    Behaviour NameOp :=
  (Behaviour.sendAll (addPods [] (initialPodNames run)).2
    (podNamesLoop r run (addPods [] (initialPodNames run)).1 true inputs)).andThen
    ⟨[.closePodC, .closeErrC], .returned⟩

/-- `getTaskRunPodNames`: the watch's start error, or the goroutine over what the watch and
the timer deliver. -/
def getTaskRunPodNames (r : Reader) (run : TaskRun) (watch : Except String (List WatchInput)) :
    Except String (Behaviour NameOp) :=
  match watch with
  | .error e => .error e
  | .ok inputs => .ok (podNamesGoroutine r run inputs)

/-! ## 2. Reading a trace -/

/-- The name a `podC` send carries. -/
def NameOp.pod? : NameOp → Option String
  | .pod n => some n
  | _ => none

/-- The error an `errC` send carries. -/
@[simp] def NameOp.err? : NameOp → Option String
  | .err e => some e
  | _ => none

/-- The input a receive takes. -/
def NameOp.recv? : NameOp → Option WatchInput
  | .recv x => some x
  | _ => none

/-- The deferred closes. -/
def NameOp.isClose : NameOp → Bool
  | .closePodC | .closeErrC => true
  | _ => false

/-- The pod name an input makes the goroutine add: a task run's non-empty current pod
name. -/
def WatchInput.podName? : WatchInput → Option String
  | .event obj =>
    match cast2taskrun obj with
    | .ok run => if run.status.podName ≠ "" then some run.status.podName else none
    | .error _ => none
  | .timeout | .closed => none

/-- An input after which discovery ends at once: an object `cast2taskrun` rejects, or a run
with a pod name and no retry scheduled. -/
def WatchInput.stops (r : Reader) : WatchInput → Bool
  | .event obj =>
    match cast2taskrun obj with
    | .ok run => run.status.podName ≠ "" && !areRetriesScheduled run r.retries
    | .error _ => true
  | .timeout | .closed => false

/-- The names of `l` not in `seen`, each at its first occurrence. -/
def freshNames (seen : List String) : List String → List String
  | [] => []
  | n :: ns => if seen.elem n then freshNames seen ns else n :: freshNames (n :: seen) ns

/-- One `addPod` call sends `name` exactly when it is fresh. -/
theorem addPod_names (seen : List String) (n : String) (rest : List String) :
    (addPod seen n).2.filterMap NameOp.pod? ++ freshNames (addPod seen n).1 rest =
      freshNames seen (n :: rest) := by
  simp only [addPod, freshNames]
  split <;> simp [NameOp.pod?]

theorem addPod_sends (seen : List String) (n : String) : ∀ op ∈ (addPod seen n).2, op = .pod n := by
  unfold addPod
  split <;> simp

theorem addPods_sends (seen l : List String) : ∀ op ∈ (addPods seen l).2, ∃ n, op = .pod n := by
  induction l generalizing seen with
  | nil => simp [addPods]
  | cons n ns ih =>
    simp only [addPods, List.mem_append]
    rintro op (h | h)
    · exact ⟨n, addPod_sends seen n op h⟩
    · exact ih _ op h

/-! ## 4. What every run of the loop sends

`LoopTrace r seen b` is what the loop guarantees of its trace `b`, from `podMap = seen`: the
names sent are the fresh names of the inputs taken, nothing is taken after a stopping input,
an error is the last send, and the loop closes nothing. Each constructor lemma below is one
branch of the `select`; `podNamesLoop_trace` assembles them by induction on the inputs. -/

/-- The names the inputs taken in `ops` carry. -/
def takenNames (ops : List NameOp) : List String :=
  (ops.filterMap NameOp.recv?).filterMap WatchInput.podName?

theorem takenNames_recv (x : WatchInput) (post : List NameOp) :
    takenNames (.recv x :: post) = (x.podName?).toList ++ takenNames post := by
  cases h : x.podName? <;> simp [takenNames, NameOp.recv?, h]

theorem takenNames_pods (ops post : List NameOp) (h : ∀ op ∈ ops, op.recv? = none) :
    takenNames (ops ++ post) = takenNames post := by
  simp [takenNames, List.filterMap_append, List.filterMap_eq_nil_iff.mpr h]

structure LoopTrace (r : Reader) (seen : List String) (b : Behaviour NameOp) : Prop where
  names : b.sends.filterMap NameOp.pod? = freshNames seen (takenNames b.sends)
  stops : ∀ x post, NameOp.recv x :: post <:+ b.sends → x.stops r = true →
    post.filterMap NameOp.recv? = [] ∧ b.ending = .returned
  errLast : ∀ e post, NameOp.err e :: post <:+ b.sends → post = [] ∧ b.ending = .returned
  noClose : ∀ op ∈ b.sends, op.isClose = false
  closed : ∀ post, NameOp.recv .closed :: post <:+ b.sends →
    post = [] ∧ b.ending = .panicked .nilPointerDereference
  panics : ∀ p, b.ending = .panicked p → p = .nilPointerDereference

/-- A suffix that starts with an operation `ops` never holds lies within what follows
`ops`. -/
theorem suffix_of_cons_suffix_append {a : NameOp} {post ops bs : List NameOp}
    (h : a :: post <:+ ops ++ bs) (ha : a ∉ ops) : a :: post <:+ bs := by
  obtain ⟨t, ht⟩ := h
  rcases List.append_eq_append_iff.mp ht with ⟨c, rfl, hc⟩ | ⟨c, rfl, hc⟩
  · cases c with
    | nil => exact (List.nil_append bs ▸ hc) ▸ List.suffix_refl _
    | cons c cs =>
      simp only [List.cons_append, List.cons.injEq] at hc
      exact absurd (by simp [hc.1]) ha
  · exact ⟨c, hc.symm⟩

namespace LoopTrace

variable {r : Reader} {seen : List String} {x : WatchInput} {b : Behaviour NameOp}

theorem blocked : LoopTrace r seen ⟨[], .blocked⟩ :=
  ⟨rfl, by simp, by simp, by simp, by simp, nofun⟩

theorem done : LoopTrace r seen .done :=
  ⟨rfl, by simp, by simp, by simp, by simp, nofun⟩

/-- The branch that takes the zero event of a closed watch: `cast2taskrun(nil)` panics. -/
theorem panic :
    LoopTrace r seen (.cons (.recv .closed) ⟨[], .panicked .nilPointerDereference⟩) :=
  ⟨by simp [takenNames_recv, WatchInput.podName?, takenNames, NameOp.pod?, freshNames],
    fun _ _ hs _ => by simp_all [List.suffix_cons_iff, WatchInput.stops],
    by simp [List.suffix_cons_iff], by simp [NameOp.isClose],
    fun _ hs => by simp_all [List.suffix_cons_iff], fun _ h => by cases h; rfl⟩

/-- A branch that takes `x` and sends an error: the `cast2taskrun` failure and the two
timeout errors. -/
theorem error (e : String) (hx : x.podName? = none) (hc : x ≠ .closed) :
    LoopTrace r seen (.cons (.recv x) ⟨[.err e], .returned⟩) := by
  refine ⟨by simp [takenNames_recv, hx, takenNames, NameOp.pod?, NameOp.recv?, freshNames],
    ?_, ?_, by simp [NameOp.isClose], ?_, nofun⟩
  · intro y post hs _
    rcases List.suffix_cons_iff.mp hs with h | h
    · simp_all [NameOp.recv?]
    · simp [List.suffix_cons_iff] at h
  · intro e' post hs
    rcases List.suffix_cons_iff.mp hs with h | h
    · simp at h
    · simp [List.suffix_cons_iff] at h; simp_all
  · intro post hs
    rcases List.suffix_cons_iff.mp hs with h | h
    · simp only [Behaviour.cons_sends, List.cons.injEq, NameOp.recv.injEq] at h
      exact absurd h.1.symm hc
    · simp [List.suffix_cons_iff] at h

/-- A branch that takes `x`, which carries no name and does not stop the loop. -/
theorem recv (hx : x.podName? = none) (hs : x.stops r = false) (hc : x ≠ .closed)
    (hb : LoopTrace r seen b) : LoopTrace r seen (.cons (.recv x) b) := by
  refine ⟨by simpa [takenNames_recv, hx, NameOp.pod?] using hb.names, ?_, ?_,
    by simpa [NameOp.isClose] using hb.noClose, ?_, hb.panics⟩
  · intro y post h hy
    rcases List.suffix_cons_iff.mp h with h | h
    · simp only [List.cons.injEq, NameOp.recv.injEq] at h
      simp_all
    · simpa using hb.stops y post h hy
  · intro e post h
    rcases List.suffix_cons_iff.mp h with h | h
    · simp at h
    · simpa using hb.errLast e post h
  · intro post h
    rcases List.suffix_cons_iff.mp h with h | h
    · simp only [Behaviour.cons_sends, List.cons.injEq, NameOp.recv.injEq] at h
      exact absurd h.1.symm hc
    · simpa using hb.closed post h

/-- A branch that takes `x`, which carries the name `n`, and adds it. -/
theorem add (n : String) (hx : x.podName? = some n) (hb : LoopTrace r (addPod seen n).1 b)
    (hs : x.stops r = true → b = .done) :
    LoopTrace r seen (.cons (.recv x) (.sendAll (addPod seen n).2 b)) := by
  have hops := addPod_sends seen n
  have hnot : ∀ a : NameOp, (∀ m, a ≠ .pod m) → a ∉ (addPod seen n).2 :=
    fun a ha hm => ha n (hops a hm)
  refine ⟨?_, ?_, ?_, ?_, ?_, hb.panics⟩
  · rw [Behaviour.cons_sends, Behaviour.sendAll_sends, takenNames_recv, hx,
      takenNames_pods _ _ (fun op h => by simp [hops op h, NameOp.recv?])]
    simpa [NameOp.pod?, hb.names] using addPod_names seen n (takenNames b.sends)
  · intro y post h hy
    rcases List.suffix_cons_iff.mp h with h | h
    · simp only [Behaviour.cons_sends, Behaviour.sendAll_sends, List.cons.injEq,
        NameOp.recv.injEq] at h
      obtain ⟨rfl, rfl⟩ := h
      have := hs hy; subst this
      simp only [Behaviour.done_sends, List.append_nil, Behaviour.cons_ending,
        Behaviour.sendAll_ending, Behaviour.done_ending, and_true]
      exact List.filterMap_eq_nil_iff.mpr fun op h => by simp [hops op h, NameOp.recv?]
    · have h := suffix_of_cons_suffix_append h (hnot _ (by simp))
      simpa using hb.stops y post h hy
  · intro e post h
    rcases List.suffix_cons_iff.mp h with h | h
    · simp at h
    · have h := suffix_of_cons_suffix_append h (hnot _ (by simp))
      simpa using hb.errLast e post h
  · intro op h
    simp only [Behaviour.cons_sends, Behaviour.sendAll_sends, List.mem_cons,
      List.mem_append] at h
    rcases h with rfl | h | h
    · rfl
    · simp [hops op h, NameOp.isClose]
    · exact hb.noClose op h
  · intro post h
    rcases List.suffix_cons_iff.mp h with h | h
    · simp only [Behaviour.cons_sends, Behaviour.sendAll_sends, List.cons.injEq,
        NameOp.recv.injEq] at h
      rw [← h.1] at hx; cases hx
    · have h := suffix_of_cons_suffix_append h (hnot _ (by simp))
      simpa using hb.closed post h

end LoopTrace

/-- Every run of the loop keeps `LoopTrace`, from any task run, `podMap` and timer. -/
theorem podNamesLoop_trace (r : Reader) (inputs : List WatchInput) :
    ∀ run seen timer, LoopTrace r seen (podNamesLoop r run seen timer inputs) := by
  induction inputs with
  | nil => intro _ _ _; rw [podNamesLoop]; exact .blocked
  | cons x rest ih =>
    intro run seen timer
    cases x with
    | event obj =>
      simp only [podNamesLoop]
      cases hc : cast2taskrun obj with
      | error e => exact .error e (by simp [WatchInput.podName?, hc]) nofun
      | ok run' =>
        dsimp only
        by_cases hp : run'.status.podName ≠ ""
        · rw [if_pos hp]
          refine .add _ ?_ ?_ ?_
          · simp [WatchInput.podName?, hc, hp]
          · split
            · exact ih _ _ _
            · exact .done
          · intro hs
            simp [WatchInput.stops, hc, hp] at hs
            simp [hs]
        · rw [if_neg hp]
          exact .recv (by simp [WatchInput.podName?, hc, hp]) (by simp [WatchInput.stops, hc, hp])
            nofun (ih _ _ _)
    | timeout =>
      cases timer with
      | false => exact ih _ _ _
      | true =>
        simp only [podNamesLoop]
        cases hasTaskRunFailed run r.task with
        | some e => exact .error e rfl nofun
        | none =>
          simp only
          split
          · split
            · exact .recv rfl rfl nofun (ih _ _ _)
            · exact .recv rfl rfl nofun .done
          · exact .error _ rfl nofun
    | closed => rw [podNamesLoop]; exact .panic


/-! ### What the loop takes of its inputs -/

/-- What a trace `b` takes of the inputs `xs` the `select` can take: what it receives is a
prefix of `xs`, all of it if the trace blocks, and otherwise ends with the input that ends the
loop: one that stops discovery, the timeout, or the zero event of a closed watch. -/
structure Takes (r : Reader) (xs : List WatchInput) (b : Behaviour NameOp) : Prop where
  inOrder : b.sends.filterMap NameOp.recv? <+: xs
  whole : b.ending = .blocked → b.sends.filterMap NameOp.recv? = xs
  last : b.ending ≠ .blocked → ∃ pre x, b.sends.filterMap NameOp.recv? = pre ++ [x] ∧
    (x.stops r = true ∨ x = .timeout ∨ x = .closed)

namespace Takes

variable {r : Reader} {x : WatchInput} {xs : List WatchInput} {b : Behaviour NameOp}

theorem nil : Takes r [] ⟨[], .blocked⟩ := ⟨List.nil_prefix, fun _ => rfl, fun h => absurd rfl h⟩

/-- Taking `x` and going on. -/
theorem cons (hb : Takes r xs b) : Takes r (x :: xs) (.cons (.recv x) b) :=
  ⟨by simpa [NameOp.recv?] using hb.inOrder, fun h => by simpa [NameOp.recv?] using hb.whole h,
    fun h => by
      obtain ⟨pre, y, hpre, hy⟩ := hb.last h
      exact ⟨x :: pre, y, by simp [NameOp.recv?, hpre], hy⟩⟩

/-- Taking `x`, then stopping with nothing more taken. -/
theorem stop (hx : x.stops r = true ∨ x = .timeout ∨ x = .closed) (he : b.ending ≠ .blocked)
    (hops : ∀ op ∈ b.sends, op.recv? = none) : Takes r (x :: xs) (.cons (.recv x) b) := by
  have hb : b.sends.filterMap NameOp.recv? = [] := List.filterMap_eq_nil_iff.mpr hops
  exact ⟨by simp [NameOp.recv?, hb], fun h => absurd h he,
    fun _ => ⟨[], x, by simp [NameOp.recv?, hb], hx⟩⟩

/-- A trace with the same receives and the same ending takes the same inputs. -/
theorem of_recv_eq {b' : Behaviour NameOp} (hb : Takes r xs b)
    (h : b'.sends.filterMap NameOp.recv? = b.sends.filterMap NameOp.recv?)
    (he : b'.ending = b.ending) : Takes r xs b' :=
  ⟨h ▸ hb.inOrder, fun hbl => h ▸ hb.whole (he ▸ hbl), fun hbl => h ▸ hb.last (he ▸ hbl)⟩

/-- Sends that take nothing. -/
theorem sendAll {ops : List NameOp} (hops : ∀ op ∈ ops, op.recv? = none) (hb : Takes r xs b) :
    Takes r xs (.sendAll ops b) :=
  hb.of_recv_eq (by simp [List.filterMap_eq_nil_iff.mpr hops]) rfl

end Takes

/-- A trace that closes nothing before its deferred closes, and closes both channels, once
each, exactly when it returns. -/
def ClosesLast (b : Behaviour NameOp) : Prop :=
  ∃ body, (∀ op ∈ body, op.isClose = false) ∧
    b.sends = body ++ if b.ending = .returned then [.closePodC, .closeErrC] else []

/-- The goroutine's trace: the initial `addPod` sends, the loop, and the deferred closes when
the loop returns. -/
theorem podNamesGoroutine_eq (r : Reader) (run : TaskRun) (inputs : List WatchInput) :
    podNamesGoroutine r run inputs =
      let L := podNamesLoop r run (addPods [] (initialPodNames run)).1 true inputs
      ⟨(addPods [] (initialPodNames run)).2 ++ L.sends ++
        if L.ending = .returned then [.closePodC, .closeErrC] else [], L.ending⟩ := by
  simp [podNamesGoroutine, Behaviour.andThen_deferred]

theorem podNamesGoroutine_closes (r : Reader) (run : TaskRun) (inputs : List WatchInput) :
    ClosesLast (podNamesGoroutine r run inputs) := by
  rw [podNamesGoroutine_eq]
  refine ⟨_ ++ _, fun op h => ?_, rfl⟩
  rcases List.mem_append.mp h with h | h
  · obtain ⟨n, rfl⟩ := addPods_sends [] (initialPodNames run) op h; rfl
  · exact (podNamesLoop_trace r inputs run _ true).noClose op h

/-- The goroutine's one panic is the nil dereference of a closed watch's zero event. -/
theorem podNamesGoroutine_panics (r : Reader) (run : TaskRun) (inputs : List WatchInput)
    (p : Panic) (h : (podNamesGoroutine r run inputs).ending = .panicked p) :
    p = .nilPointerDereference := by
  rw [podNamesGoroutine_eq] at h
  exact (podNamesLoop_trace r inputs run _ true).panics p h

/-! ## 6. A retry seen only in `RetriesStatus`

The initial names come from the run's `RetriesStatus` and its `PodName`; an event's come from
its `PodName` alone (`WatchInput.podName?`). A run that retried twice before the watch
started reports the middle attempt only in `RetriesStatus`, and that attempt's pod is never
sent, with no error. -/

/-- A follow-mode reader that allows two retries. -/
def watchReader : Reader := ⟨"build-run", "build", "Build", true, false, false, [], 2, false⟩

/-- The run as `GetTaskRun` returned it: its first pod, no retry yet. -/
def firstAttempt : TaskRun :=
  { name := "build-run", status := { podName := "build-pod", startTime := some "t0" } }

/-- The run as the watch's first event shows it: two retries later. -/
def thirdAttempt : TaskRun :=
  { name := "build-run"
    status := { podName := "build-pod-retry2", startTime := some "t0"
                retriesStatus := [⟨"build-pod"⟩, ⟨"build-pod-retry1"⟩] } }

theorem podNamesGoroutine_loses_retry :
    podNamesGoroutine watchReader firstAttempt [.event (.taskRun thirdAttempt)] =
      ⟨[.pod "build-pod", .recv (.event (.taskRun thirdAttempt)), .pod "build-pod-retry2",
        .closePodC, .closeErrC], .returned⟩ ∧
    "build-pod-retry1" ∈ initialPodNames thirdAttempt :=
  ⟨rfl, by decide⟩

end TaskReader
end TektonLogs
