import TektonLogs.Log.LiveLogs

/-!
# Live mode runs `readPodLogs`

`Log/LiveLogs.lean` models `readPodLogs`'s caller, forwarder and log worker a second time:
there they are fed by the discovery goroutine over unbuffered channels, where in
`Log/PodLogs.lean` `podErrC`'s errors and the worker's work are fixed when the goroutines
start. The two models agree. Leave the discovery goroutine out, and every state of a live
run is a state that `readPodLogs` reaches, with `podErrC` holding the discovery goroutine's
errors and the worker streaming, in turn, each pod it sends.

* `State.project` — a live state as `readPodLogs` has it. Each goroutine's pending input is
  read off what the discovery goroutine has still to send.
* `step_project` — each live action is one of three kinds. It may be the same action of
  the same goroutine of `readPodLogs`. It may be one `readPodLogs` does not see: a receive
  or a close of the discovery goroutine, the worker taking a name, or the forwarder taking
  an error. Or it is the panic the discovery goroutine's trace ends in.
* `Reaches.project` — so every live run, projected, is a run of `readPodLogs`, or such a
  run followed by the discovery goroutine's panic.
* `readLiveTaskLogs_refines` — the same for what `readLiveTaskLogs` starts, with
  `readPodLogs`'s own log worker (`logWorker`) over the names discovery sends. Its one panic
  is the nil dereference of a closed watch.
-/

set_option autoImplicit false

namespace TektonLogs
namespace TaskReader
namespace LiveLogs

open V1 Go

/-! ## 1. The projection -/

/-- The worker's whole work for the names `ns`: each pod's code in turn, as `logWorker`
ranges over `podC`. -/
def workAll (work : String → Behaviour Send) : List String → Behaviour Send
  | [] => .done
  | n :: ns => (work n).andThen (workAll work ns)

theorem logWorker_eq_workAll (r : Reader) (cluster : String → Pods.Pod) (names : List String) :
    logWorker r cluster r.follow r.timestamps names = workAll (liveWork r cluster) names := by
  induction names with
  | nil => rfl
  | cons n ns ih => rw [logWorker, workAll, ih]; rfl

/-- The forwarder as `readPodLogs` has it: `podErrC` will still deliver the error it is
sending and the errors `errs` the discovery goroutine has left to send. -/
def ForwarderPc.project (errs : List String) : ForwarderPc → PodLogs.ForwarderPc
  | .notStarted => .notStarted errs
  | .receiving => .forwarding errs
  | .sending e => .forwarding (e :: errs)
  | .waiting => .waiting
  | .closing => .closing
  | .finished => .finished

/-- The worker as `readPodLogs` has it: the rest of the pod it is streaming, then each of
the pods `pods` the discovery goroutine has left to send. -/
def WorkerPc.project (work : String → Behaviour Send) (pods : List String) :
    WorkerPc → PodLogs.WorkerPc
  | .notStarted => .notStarted (workAll work pods)
  | .receiving => .running (workAll work pods)
  | .running rest => .running (rest.andThen (workAll work pods))
  | .done => .done
  | .finished => .finished

/-- A live state as `readPodLogs` has it, without the discovery goroutine. -/
def State.project (work : String → Behaviour Send) (s : State) : PodLogs.State :=
  ⟨s.caller, s.forwarder.project (s.names.filterMap NameOp.err?),
    s.worker.project work (s.names.filterMap NameOp.pod?), s.wg, s.errClosed, s.logClosed,
    s.errs, s.logs, s.fault⟩

/-- `readPodLogs` started with all the errors and names the discovery trace `b` sends. -/
def podLogsOf (work : String → Behaviour Send) (b : Behaviour NameOp) : PodLogs.State :=
  PodLogs.initial (some (b.sends.filterMap NameOp.err?))
    (workAll work (b.sends.filterMap NameOp.pod?))

theorem State.project_wgDone (work : String → Behaviour Send) (s : State) :
    s.wgDone.project work = (s.project work).wgDone :=
  Go.wgDoneOn_comp (State.project work)

/-- Once `podC` is closed, the discovery goroutine has no error and no name left to send. -/
theorem Remaining.nothing_left {names : List NameOp} {pe : Bool} (h : Remaining names true pe) :
    names.filterMap NameOp.err? = [] ∧ names.filterMap NameOp.pod? = [] := by
  have hc := h.closes_of_podClosed
  constructor <;> refine List.filterMap_eq_nil_iff.mpr fun op hop => ?_ <;>
    cases op <;> first | rfl | simpa [NameOp.isClose] using hc _ hop

/-! ## 2. One action at a time -/

section Step

variable {work : String → Behaviour Send} {s s' : State}

/-- The caller acts as `readPodLogs`'s caller. Its goroutines start where the projection
says, since the invariant has them not started before the caller starts them. -/
theorem callerStep_project (hi : Inv s) (h : callerStep s s.caller = some s') :
    PodLogs.callerStep (s.project work) (s.project work).caller = some (s'.project work) := by
  rcases s with ⟨c, names, de, fw, wk, wg, pc, pe, ec, lc, taken, errs, logs, f⟩
  have hfs := hi.forwarderStarted
  have hws := hi.workerStarted
  dsimp only at hfs hws
  cases c <;> cases h
  · rfl
  · obtain rfl : fw = .notStarted := hfs.mpr rfl
    rfl
  · rfl
  · obtain rfl : wk = .notStarted := hws.mpr Nat.one_lt_two
    rfl

/-- The forwarder acts as `readPodLogs`'s forwarder, except when it takes an error, which
`readPodLogs`'s forwarder holds already. -/
theorem forwarderStep_project (hi : Inv s) (h : forwarderStep s s.forwarder = some s') :
    s'.project work = s.project work ∨
      PodLogs.forwarderStep (s.project work) (s.project work).forwarder =
        some (s'.project work) := by
  rcases s with ⟨c, names, de, fw, wk, wg, pc, pe, ec, lc, taken, errs, logs, f⟩
  cases fw with
  | notStarted | finished => cases h
  | receiving =>
    simp only [forwarderStep] at h
    split at h
    · cases h
      exact .inl rfl
    · split at h
      · -- `podErrC` is closed, so no error is left to come.
        rename_i hpe
        cases hpe
        have herrs := (hi.names.podClosed ▸ hi.names).nothing_left.1
        cases h
        right
        rw [State.project_wgDone]
        show PodLogs.forwarderStep _ (.forwarding (names.filterMap NameOp.err?)) = _
        rw [herrs]
        rfl
      · cases h
  | sending e => cases ec <;> cases h <;> exact .inr rfl
  | waiting =>
    cases wg <;> cases h
    exact .inr rfl
  | closing => cases ec <;> cases h <;> exact .inr rfl

/-- The worker acts as `readPodLogs`'s worker, except when it takes a name or finishes a
pod, which `readPodLogs`'s worker, holding all the pods' work in one, does not see. -/
theorem workerStep_project (hi : Inv s) (h : workerStep work s s.worker = some s') :
    s'.project work = s.project work ∨
      PodLogs.workerStep (s.project work) (s.project work).worker = some (s'.project work) := by
  rcases s with ⟨c, names, de, fw, wk, wg, pc, pe, ec, lc, taken, errs, logs, f⟩
  cases wk with
  | notStarted | finished => cases h
  | receiving =>
    simp only [workerStep] at h
    split at h
    · cases h
      exact .inl rfl
    · split at h
      · -- `podC` is closed, so no pod is left to stream.
        rename_i hpc
        cases hpc
        have hpods := hi.names.nothing_left.2
        right
        cases lc <;> cases h <;> simp only [State.project, WorkerPc.project, hpods] <;> rfl
      · cases h
  | running rest =>
    rcases rest with ⟨_ | ⟨op, sends⟩, e⟩
    · cases e with
      | returned => cases h; exact .inl rfl
      | panicked p => cases h; exact .inr rfl
      | blocked => cases h
    · cases op with
      | log l => cases e <;> cases lc <;> cases h <;> exact .inr rfl
      | err m => cases e <;> cases ec <;> cases h <;> exact .inr rfl
  | done =>
    cases h
    right
    rw [State.project_wgDone]
    rfl

/-- The discovery goroutine's actions are unseen by `readPodLogs`, except the panic its
trace ends in. It never closes a channel twice, by the invariant. -/
theorem discoveryStep_project (hi : Inv s) (h : discoveryStep s s.names = some s') :
    s'.project work = s.project work ∨
      s.names = [] ∧ ∃ q, s.discoveryEnd = .panicked q ∧ s' = { s with fault := some q } := by
  rcases s with ⟨c, names, de, fw, wk, wg, pc, pe, ec, lc, taken, errs, logs, f⟩
  have hn := hi.names
  dsimp only at hn h ⊢
  rcases names with _ | ⟨op, rest⟩
  · simp only [discoveryStep] at h
    split at h
    · cases h
      exact .inr ⟨rfl, _, rfl, rfl⟩
    · cases h
  · cases op with
    | recv x => cases h; exact .inl rfl
    | closePodC =>
      obtain ⟨rfl, -, -⟩ := hn.closePodC
      cases h
      exact .inl rfl
    | closeErrC =>
      obtain ⟨-, rfl, -⟩ := hn.closeErrC
      cases h
      exact .inl rfl
    | pod n | err e => cases h

/-- **Each live action is an action of `readPodLogs`, an action it does not see, or the
discovery goroutine's panic.** -/
theorem step_project {p : Party} (hi : Inv s) (h : step work s p = some s') :
    s'.project work = s.project work ∨ PodLogs.Step (s.project work) (s'.project work) ∨
      s.names = [] ∧ ∃ q, s.discoveryEnd = .panicked q ∧ s' = { s with fault := some q } := by
  rcases s with ⟨c, names, de, fw, wk, wg, pc, pe, ec, lc, taken, errs, logs, _ | f⟩
  · cases p
    · exact .inr (.inl ⟨.caller, callerStep_project hi h⟩)
    · exact (forwarderStep_project hi h).imp_right fun he => .inl ⟨.forwarder, he⟩
    · exact (workerStep_project hi h).imp_right fun he => .inl ⟨.worker, he⟩
    · exact (discoveryStep_project hi h).imp_right .inr
  · cases p <;> cases h

end Step

/-! ## 3. Whole runs -/

/-- **Every live run is a run of `readPodLogs`.** From the discovery trace `b`, every state
a live run reaches projects onto a state that `readPodLogs` reaches, with `podErrC` holding
`b`'s errors and the worker streaming `b`'s names in turn. The one exception is the panic
`b` ends in. That state is the panic of a state with nothing left for the discovery
goroutine to do, and that state projects onto a state `readPodLogs` reaches. -/
theorem Reaches.project {work : String → Behaviour Send} {b : Behaviour NameOp} {s : State}
    (hwork : ∀ n, channelPanic (work n).ending = false) (hb : ClosesLast b)
    (hd : channelPanic b.ending = false) (h : Reaches work (initial b) s) :
    PodLogs.Reaches (podLogsOf work b) (s.project work) ∨
      ∃ q, ∃ s₁ : State, b.ending = .panicked q ∧ s = { s₁ with fault := some q } ∧ s₁.names = [] ∧
        PodLogs.Reaches (podLogsOf work b) (s₁.project work) := by
  induction h with
  | refl => exact .inl .refl
  | @tail s s' hs hst ih =>
    obtain ⟨p, hp⟩ := hst
    obtain ⟨hi, he⟩ := Reaches.endInv hwork hb hd hs
    rcases ih with ih | ⟨q, s₁, -, rfl, -, -⟩
    · rcases step_project hi hp with heq | hpl | ⟨hn, q, hq, rfl⟩
      · exact .inl (heq ▸ ih)
      · exact .inl (ih.tail hpl)
      · exact .inr ⟨q, s, he.discoveryEnd ▸ hq, rfl, hn, ih⟩
    · -- A state that has panicked takes no step.
      cases p <;> cases hp

/-- **Live mode runs `readPodLogs`.** Every state a run of `readLiveTaskLogs` reaches, over
any watch and any cluster, projects onto a state of `readPodLogs` fed all at once. There
`podErrC` holds the errors the discovery goroutine sends, and `readPodLogs`'s own log worker
ranges over the names it sends. Or the watch closed: the discovery goroutine dereferenced
its zero event with nothing else left to do, after a state that so projects. -/
theorem readLiveTaskLogs_refines (r : Reader) (run : TaskRun) (inputs : List WatchInput)
    (cluster : String → Pods.Pod) (s₀ s : State)
    (h₀ : readLiveTaskLogs r run (.ok inputs) = .ok s₀) (h : Reaches (liveWork r cluster) s₀ s) :
    PodLogs.Reaches
        (PodLogs.initial (some ((podNamesGoroutine r run inputs).sends.filterMap NameOp.err?))
          (logWorker r cluster r.follow r.timestamps
            ((podNamesGoroutine r run inputs).sends.filterMap NameOp.pod?)))
        (s.project (liveWork r cluster)) ∨
      (podNamesGoroutine r run inputs).ending = .panicked .nilPointerDereference ∧
        ∃ s₁ : State, s = { s₁ with fault := some .nilPointerDereference } ∧ s₁.names = [] ∧
          PodLogs.Reaches
            (PodLogs.initial (some ((podNamesGoroutine r run inputs).sends.filterMap NameOp.err?))
              (logWorker r cluster r.follow r.timestamps
                ((podNamesGoroutine r run inputs).sends.filterMap NameOp.pod?)))
            (s₁.project (liveWork r cluster)) := by
  obtain rfl : s₀ = initial (podNamesGoroutine r run inputs) := (Except.ok.inj h₀).symm
  rw [logWorker_eq_workAll]
  rcases Reaches.project (liveWork_channel_safe r cluster) (podNamesGoroutine_closes r run inputs)
      (podNamesGoroutine_channel_safe r run inputs) h with hr | ⟨q, s₁, hq, rfl, hn, hr⟩
  · exact .inl hr
  · obtain rfl := podNamesGoroutine_panics r run inputs q hq
    exact .inr ⟨hq, s₁, rfl, hn, hr⟩

/-- The followed run that completes in `Log/LiveLogs.lean` is a run of `readPodLogs` with no
error on `podErrC` and a worker streaming `build-pod`, then `build-pod-retry2`. -/
theorem liveRunDone_refines :
    PodLogs.Reaches
      (PodLogs.initial (some []) (logWorker watchReader liveCluster true false
        ["build-pod", "build-pod-retry2"]))
      (liveRunDone.project (liveWork watchReader liveCluster)) :=
  (readLiveTaskLogs_refines watchReader firstAttempt [.event (.taskRun thirdAttempt)]
    liveCluster _ _ rfl liveRunDone_reached).resolve_right
      fun ⟨_, _, h, _⟩ => nomatch congrArg State.fault h

end LiveLogs
end TaskReader
end TektonLogs
