import TektonLogs.Log.PodLogs
import TektonLogs.Log.PodNames

/-!
# `readLiveTaskLogs`: discovery and reading, running together

When following a task run that is not done, the reader starts `getTaskRunPodNames`'s
discovery goroutine and hands its two channels to `readPodLogs`: the log worker ranges over
`podC`, and the forwarder over `podErrC`. The three goroutines of `readPodLogs` and the
discovery goroutine then run together, and both channels between them are unbuffered, so a
name or an error passes only when its receiver takes it.

The discovery goroutine is given by its trace (`Behaviour NameOp`, `Log/PodNames.lean`):
receives it performs alone, sends that each need their receiver, and the two deferred
closes. When its trace ends in a panic (the nil dereference of a closed watch's zero event),
its last step is that panic. The worker streams each pod it is handed; what that does is
`work name` (`streamPod` of the pod, for `readLiveTaskLogs`). A name the worker takes is
recorded in `taken`, a ghost field that no step reads. Steps, interleavings and schedules
are those of `Go/Schedule.lean` over this system's `step`.

Proved here, for every interleaving:

* `readLiveTaskLogs_runs` gathers the two results below for what `readLiveTaskLogs` starts.
* `Inv.channel_safe` — no send on a closed channel, no second close, and no negative
  wait-group counter. The wait-group race of `readPodLogs` (`Log/PodLogs.lean`) needs the
  forwarder to finish before the worker is counted; here the forwarder finishes only after
  `podErrC` closes, which the discovery goroutine does after its last name has been taken
  — and a name can only be taken by a worker that has been counted. A worker started after
  that finds `podC` closed and sends nothing.
* `Reaches.order` — `logC` has carried a prefix of the records of the pods taken, pod after
  pod in the order the discovery goroutine sent their names, and the worker holds the rest.
* `readLiveTaskLogs_ends` — once the discovery goroutine returns, a run stops only on the nil
  pod of a failed fetch, in the panic of a `Wait`, in a `Wait` that never returns, or
  completed with every channel closed, every name sent taken, and every record and error
  delivered (`Inv.ends`, over a second invariant `EndInv`).
* `readLiveTaskLogs_run_length_le` — and every run stops: the goroutines act a bounded number
  of times, fixed by the discovery goroutine's trace and the pods' code.
-/

set_option autoImplicit false

namespace TektonLogs
namespace TaskReader
namespace LiveLogs

open V1 Go Pods

/-! ## 1. The model -/

/-- Where the forwarder is. -/
inductive ForwarderPc where
  | notStarted
  /-- `for podErr := range podErrC`, waiting for the next error or the close. -/
  | receiving
  /-- `errC <- podErr`. -/
  | sending (e : String)
  /-- In `wg.Wait()`, after its `wg.Done()`. -/
  | waiting
  /-- `close(errC)`. -/
  | closing
  | finished
  deriving DecidableEq, Repr

/-- Where the log worker is. -/
inductive WorkerPc where
  | notStarted
  /-- `for podName := range podC`, waiting for the next name or the close. -/
  | receiving
  /-- Streaming one pod, with what it has still to do. -/
  | running (rest : Behaviour Send)
  /-- The deferred `wg.Done()`, after the deferred `close(logC)`. -/
  | done
  | finished
  deriving DecidableEq, Repr

/-- The four goroutines, the wait group, the four channels, and what the consumers have
received. -/
structure State where
  caller : PodLogs.CallerPc
  /-- What the discovery goroutine has still to do. -/
  names : List NameOp
  /-- How the discovery goroutine ends once it has done it. -/
  discoveryEnd : Ending
  forwarder : ForwarderPc
  worker : WorkerPc
  wg : Nat
  podClosed : Bool
  podErrClosed : Bool
  errClosed : Bool
  logClosed : Bool
  /-- The names the worker has taken from `podC`, in order. -/
  taken : List String
  errs : List String
  logs : List Log
  fault : Option Panic
  deriving DecidableEq, Repr

/-- `readPodLogs` about to start, with the discovery goroutine's trace `b` ahead of it. -/
def initial (b : Behaviour NameOp) : State :=
  ⟨.add1, b.sends, b.ending, .notStarted, .notStarted, 0, false, false, false, false, [], [], [],
    none⟩

/-- The goroutines. -/
inductive Party where
  | caller
  | forwarder
  | worker
  | discovery
  deriving DecidableEq, Repr

/-- The body of `readPodLogs`. -/
def callerStep (s : State) : PodLogs.CallerPc → Option State
  | .add1 => some { s with caller := .goForwarder, wg := s.wg + 1 }
  | .goForwarder => some { s with caller := .add2, forwarder := .receiving }
  | .add2 => some { s with caller := .goWorker, wg := s.wg + 1 }
  | .goWorker => some { s with caller := .returned, worker := .receiving }
  | .returned => none

/-- `wg.Done()`: a negative counter panics. -/
def State.wgDone (s : State) : State :=
  Go.wgDoneOn s.wg (fun p => { s with fault := some p }) fun wg => { s with wg := wg }

/-- The discovery goroutine's own operations: taking an input, its deferred closes, and the
panic its trace may end in. Its sends are taken by their receivers. -/
def discoveryStep (s : State) : List NameOp → Option State
  | [] =>
    match s.discoveryEnd with
    | .panicked p => some { s with fault := some p }
    | _ => none
  | .recv _ :: rest => some { s with names := rest }
  | .closePodC :: rest =>
    if s.podClosed then some { s with fault := some .closeOfClosedChannel }
    else some { s with names := rest, podClosed := true }
  | .closeErrC :: rest =>
    if s.podErrClosed then some { s with fault := some .closeOfClosedChannel }
    else some { s with names := rest, podErrClosed := true }
  | _ => none

/-- The forwarder. -/
def forwarderStep (s : State) : ForwarderPc → Option State
  | .receiving =>
    match s.names with
    | .err e :: rest => some { s with names := rest, forwarder := .sending e }
    | _ => if s.podErrClosed then some ({ s with forwarder := .waiting }.wgDone) else none
  | .sending e =>
    if s.errClosed then some { s with fault := some .sendOnClosedChannel }
    else some { s with forwarder := .receiving, errs := s.errs ++ [e] }
  | .waiting => if s.wg = 0 then some { s with forwarder := .closing } else none
  | .closing =>
    if s.errClosed then some { s with fault := some .closeOfClosedChannel }
    else some { s with forwarder := .finished, errClosed := true }
  | .notStarted | .finished => none

/-- The log worker, streaming the pod named `n` as `work n` does. -/
def workerStep (work : String → Behaviour Send) (s : State) : WorkerPc → Option State
  | .receiving =>
    match s.names with
    | .pod n :: rest =>
      some { s with names := rest, worker := .running (work n), taken := s.taken ++ [n] }
    | _ =>
      if s.podClosed then
        if s.logClosed then some { s with fault := some .closeOfClosedChannel }
        else some { s with worker := .done, logClosed := true }
      else none
  | .running ⟨.log l :: rest, e⟩ =>
    if s.logClosed then some { s with fault := some .sendOnClosedChannel }
    else some { s with worker := .running ⟨rest, e⟩, logs := s.logs ++ [l] }
  | .running ⟨.err m :: rest, e⟩ =>
    if s.errClosed then some { s with fault := some .sendOnClosedChannel }
    else some { s with worker := .running ⟨rest, e⟩, errs := s.errs ++ [m] }
  | .running ⟨[], .returned⟩ => some { s with worker := .receiving }
  | .running ⟨[], .panicked p⟩ => some { s with fault := some p }
  | .running ⟨[], .blocked⟩ => none
  | .done => some ({ s with worker := .finished }.wgDone)
  | .notStarted | .finished => none

/-- A goroutine's next action; `none` when it is blocked or finished, or the process has
panicked. -/
def step (work : String → Behaviour Send) (s : State) : Party → Option State
  | .caller => if s.fault.isSome then none else callerStep s s.caller
  | .forwarder => if s.fault.isSome then none else forwarderStep s s.forwarder
  | .worker => if s.fault.isSome then none else workerStep work s s.worker
  | .discovery => if s.fault.isSome then none else discoveryStep s s.names

/-- One action of any goroutine. -/
def Step (work : String → Behaviour Send) (s s' : State) : Prop := Go.Step (step work) s s'

/-- Every state some interleaving leads to. -/
def Reaches (work : String → Behaviour Send) (s₀ : State) : State → Prop :=
  Go.Reaches (step work) s₀

/-- The state a schedule of goroutines leads to, if each can act in turn. -/
def runSchedule (work : String → Behaviour Send) (s : State) (ps : List Party) : Option State :=
  Go.runSchedule (step work) s ps

/-- What the worker does with a pod name when `readLiveTaskLogs` starts it. -/
def liveWork (r : Reader) (cluster : String → Pods.Pod) (n : String) : Behaviour Send :=
  streamPod r (cluster n) r.follow r.timestamps

/-- `readLiveTaskLogs`: the watch's error, or the goroutines started, over what the watch and
the timer deliver. -/
def readLiveTaskLogs (r : Reader) (run : TaskRun) (watch : Except String (List WatchInput)) :
    Except String State :=
  match getTaskRunPodNames r run watch with
  | .error e => .error e
  | .ok b => .ok (initial b)

/-! ## 2. What the discovery goroutine has left to do -/

/-- The discovery goroutine's remaining operations, given which of its channels it has
closed: it closes nothing before its deferred closes, and closes `podC` before `podErrC`. -/
def Remaining (names : List NameOp) (podClosed podErrClosed : Bool) : Prop :=
  podClosed = false ∧ podErrClosed = false ∧
      ((∀ op ∈ names, op.isClose = false) ∨
        ∃ body, (∀ op ∈ body, op.isClose = false) ∧ names = body ++ [.closePodC, .closeErrC]) ∨
    podClosed = true ∧ podErrClosed = false ∧ names = [.closeErrC] ∨
    podClosed = true ∧ podErrClosed = true ∧ names = []

namespace Remaining

variable {op : NameOp} {rest : List NameOp} {pc pe : Bool}

/-- Taking an operation that closes nothing leaves the rest in shape. -/
theorem tail (h : Remaining (op :: rest) pc pe) (hop : op.isClose = false) :
    Remaining rest pc pe := by
  rcases h with ⟨rfl, rfl, hfree | ⟨body, hbody, heq⟩⟩ | ⟨-, -, heq⟩ | ⟨-, -, heq⟩
  · exact .inl ⟨rfl, rfl, .inl fun o ho => hfree o (List.mem_cons_of_mem _ ho)⟩
  · cases body with
    | nil => cases heq; nomatch hop
    | cons b bs =>
      obtain ⟨rfl, rfl⟩ := List.cons.inj heq
      exact .inl ⟨rfl, rfl, .inr ⟨bs, fun o ho => hbody o (List.mem_cons_of_mem _ ho), rfl⟩⟩
  · cases heq; nomatch hop
  · cases heq

theorem closePodC (h : Remaining (.closePodC :: rest) pc pe) :
    pc = false ∧ pe = false ∧ rest = [.closeErrC] := by
  rcases h with ⟨rfl, rfl, hfree | ⟨body, hbody, heq⟩⟩ | ⟨-, -, heq⟩ | ⟨-, -, heq⟩
  · nomatch hfree _ (List.mem_cons_self _ _)
  · cases body with
    | nil => cases heq; exact ⟨rfl, rfl, rfl⟩
    | cons b bs => cases heq; nomatch hbody _ (List.mem_cons_self _ _)
  · cases heq
  · cases heq

theorem closeErrC (h : Remaining (.closeErrC :: rest) pc pe) :
    pc = true ∧ pe = false ∧ rest = [] := by
  rcases h with ⟨rfl, rfl, hfree | ⟨body, hbody, heq⟩⟩ | ⟨rfl, rfl, heq⟩ | ⟨-, -, heq⟩
  · nomatch hfree _ (List.mem_cons_self _ _)
  · cases body with
    | nil => cases heq
    | cons b bs => cases heq; nomatch hbody _ (List.mem_cons_self _ _)
  · cases heq; exact ⟨rfl, rfl, rfl⟩
  · cases heq

/-- `podErrC` is closed only after `podC`. -/
theorem podClosed {names : List NameOp} (h : Remaining names pc true) : pc = true := by
  rcases h with ⟨-, h, -⟩ | ⟨-, h, -⟩ | ⟨h, -, -⟩
  · cases h
  · cases h
  · exact h

/-- Once `podC` is closed, only closes are left: no name is sent any more. -/
theorem closes_of_podClosed {names : List NameOp} (h : Remaining names true pe) :
    ∀ op ∈ names, op.isClose = true := by
  rcases h with ⟨h, -⟩ | ⟨-, -, rfl⟩ | ⟨-, -, rfl⟩
  · cases h
  · simp [NameOp.isClose]
  · simp

end Remaining

/-- A trace of the discovery goroutine starts in shape. -/
theorem remaining_initial {b : Behaviour NameOp} (hb : ClosesLast b) :
    Remaining b.sends false false := by
  obtain ⟨body, hbody, heq⟩ := hb
  split at heq
  · exact .inl ⟨rfl, rfl, .inr ⟨body, hbody, heq⟩⟩
  · exact .inl ⟨rfl, rfl, .inl (by simpa [heq] using hbody)⟩

/-! ## 3. Reading the protocol off the program counters -/

/-- The forwarder has run its `wg.Done()`. -/
def ForwarderPc.counted : ForwarderPc → Bool
  | .waiting | .closing | .finished => true
  | .notStarted | .receiving | .sending _ => false

/-- The forwarder is past `wg.Wait()`. -/
def ForwarderPc.pastWait : ForwarderPc → Bool
  | .closing | .finished => true
  | .notStarted | .receiving | .sending _ | .waiting => false

/-- The worker has closed `logC`. -/
def WorkerPc.closedLog : WorkerPc → Bool
  | .done | .finished => true
  | .notStarted | .receiving | .running _ => false

/-- The worker is streaming a pod, and may send. -/
def WorkerPc.isRunning : WorkerPc → Bool
  | .running _ => true
  | .notStarted | .receiving | .done | .finished => false

/-- The worker has run its `wg.Done()`. -/
def WorkerPc.counted : WorkerPc → Bool
  | .finished => true
  | .notStarted | .receiving | .running _ | .done => false

/-- A goroutine's code ends in a panic of a channel or a wait group. -/
def channelPanic : Ending → Bool
  | .panicked p => p.isChannel
  | .returned | .blocked => false

/-- The inductive invariant. -/
structure Inv (s : State) : Prop where
  wg : s.wg + s.forwarder.counted.toNat + s.worker.counted.toNat = s.caller.adds
  forwarderStarted : s.forwarder = .notStarted ↔ s.caller.started = 0
  workerStarted : s.worker = .notStarted ↔ s.caller.started < 2
  errClosed : s.errClosed = true ↔ s.forwarder = .finished
  logClosed : s.logClosed = s.worker.closedLog
  names : Remaining s.names s.podClosed s.podErrClosed
  forwarderRange : s.forwarder.counted = true → s.podErrClosed = true
  workerRange : s.worker.closedLog = true → s.podClosed = true
  quiet : s.forwarder.pastWait = true → s.worker.isRunning = false
  running : ∀ rest, s.worker = .running rest → channelPanic rest.ending = false
  fault : ∀ p, s.fault = some p → p.isChannel = false
  discovery : channelPanic s.discoveryEnd = false

theorem initial_inv {b : Behaviour NameOp} (hb : ClosesLast b)
    (hd : channelPanic b.ending = false) : Inv (initial b) :=
  ⟨rfl, iff_of_true rfl rfl, iff_of_true rfl (Nat.zero_lt_two), iff_of_false nofun nofun, rfl,
    remaining_initial hb, nofun, nofun, nofun, (fun _ h => nomatch h), (fun _ h => nomatch h), hd⟩

/-! ## 4. Every step keeps the invariant -/

namespace Inv

variable {s s' : State}

/-- The counter covers a started forwarder that has not counted itself down. -/
theorem wg_pos_forwarder (hi : Inv s) (hne : s.forwarder ≠ .notStarted)
    (hc : s.forwarder.counted = false) : s.wg ≠ 0 := by
  have hwg := hi.wg
  have hs : s.caller.started ≠ 0 := fun h => hne (hi.forwarderStarted.mpr h)
  have hwk : s.caller.started < 2 → s.worker.counted.toNat = 0 := fun h => by
    rw [hi.workerStarted.mpr h]; rfl
  have := Bool.toNat_le s.worker.counted
  rw [hc, Bool.toNat_false] at hwg
  cases hcl : s.caller <;> rw [hcl] at hwg hs hwk <;>
    simp only [PodLogs.CallerPc.adds, PodLogs.CallerPc.started] at hwg hs hwk
  · exact absurd rfl hs
  · exact absurd rfl hs
  · have := hwk (by decide); omega
  · have := hwk (by decide); omega
  · omega

/-- The counter covers a started worker that has not counted itself down. -/
theorem wg_pos_worker (hi : Inv s) (hne : s.worker ≠ .notStarted)
    (hc : s.worker.counted = false) : s.wg ≠ 0 := by
  have hwg := hi.wg
  have hs : ¬s.caller.started < 2 := fun h => hne (hi.workerStarted.mpr h)
  have := Bool.toNat_le s.forwarder.counted
  rw [hc, Bool.toNat_false] at hwg
  cases hcl : s.caller <;> rw [hcl] at hwg hs <;>
    simp only [PodLogs.CallerPc.adds, PodLogs.CallerPc.started] at hwg hs <;> omega

/-- When the counter is zero after the forwarder's `wg.Done()`, the worker is not streaming. -/
theorem quiet_of_wg_zero (hi : Inv s) (hz : s.wg = 0) (hc : s.forwarder.counted = true) :
    s.worker.isRunning = false := by
  cases hw : s.worker with
  | running rest =>
    have hwg := hi.wg
    have hs : ¬s.caller.started < 2 := fun h => by
      have := hi.workerStarted.mpr h; rw [hw] at this; nomatch this
    rw [hz, hc, hw, Bool.toNat_true] at hwg
    cases hcl : s.caller <;> rw [hcl] at hwg hs <;>
      simp only [PodLogs.CallerPc.adds, PodLogs.CallerPc.started, WorkerPc.counted,
        Bool.toNat_false] at hwg hs <;> omega
  | _ => rfl

end Inv

theorem callerStep_inv {s s' : State} (hi : Inv s) (h : callerStep s s.caller = some s') :
    Inv s' := by
  rcases s with ⟨c, names, de, fw, wk, wg, pc, pe, ec, lc, taken, errs, logs, f⟩
  obtain ⟨hwg, hfs, hws, hec, hlc, hnames, hfr, hwr, hquiet, hrun, hf, hdis⟩ := hi
  dsimp only at *
  cases c <;> cases h
  · exact ⟨by simp only [PodLogs.CallerPc.adds] at hwg ⊢; omega, hfs, hws, hec, hlc, hnames, hfr, hwr, hquiet, hrun,
      hf, hdis⟩
  · obtain rfl : fw = .notStarted := hfs.mpr rfl
    exact ⟨hwg, iff_of_false nofun nofun, hws.trans (iff_of_true Nat.zero_lt_two Nat.one_lt_two),
      hec.trans (iff_of_false nofun nofun), hlc, hnames, nofun, hwr, nofun, hrun, hf, hdis⟩
  · exact ⟨by simp only [PodLogs.CallerPc.adds] at hwg ⊢; omega, hfs, hws, hec, hlc, hnames, hfr, hwr, hquiet, hrun,
      hf, hdis⟩
  · obtain rfl : wk = .notStarted := hws.mpr Nat.one_lt_two
    exact ⟨hwg, hfs.trans (iff_of_false Nat.one_ne_zero (Nat.succ_ne_zero 1)),
      iff_of_false nofun (Nat.lt_irrefl 2),
      hec, hlc, hnames, hfr, nofun, fun _ => rfl, (fun _ h => nomatch h), hf, hdis⟩

theorem discoveryStep_inv {s s' : State} (hi : Inv s) (h : discoveryStep s s.names = some s') :
    Inv s' := by
  rcases s with ⟨c, names, de, fw, wk, wg, pc, pe, ec, lc, taken, errs, logs, f⟩
  obtain ⟨hwg, hfs, hws, hec, hlc, hnames, hfr, hwr, hquiet, hrun, hf, hdis⟩ := hi
  dsimp only at *
  rcases names with _ | ⟨op, rest⟩
  · -- Only the panic its trace ends in is left to the discovery goroutine.
    simp only [discoveryStep] at h
    split at h
    · cases h
      exact ⟨hwg, hfs, hws, hec, hlc, hnames, hfr, hwr, hquiet, hrun,
        (fun _ hq => by cases hq; exact hdis), hdis⟩
    · cases h
  cases op with
  | recv x =>
    cases h
    exact ⟨hwg, hfs, hws, hec, hlc, hnames.tail rfl, hfr, hwr, hquiet, hrun, hf, hdis⟩
  | closePodC =>
    obtain ⟨rfl, rfl, rfl⟩ := hnames.closePodC
    cases h
    exact ⟨hwg, hfs, hws, hec, hlc, .inr (.inl ⟨rfl, rfl, rfl⟩), hfr, fun _ => rfl, hquiet, hrun,
      hf, hdis⟩
  | closeErrC =>
    obtain ⟨rfl, rfl, rfl⟩ := hnames.closeErrC
    cases h
    exact ⟨hwg, hfs, hws, hec, hlc, .inr (.inr ⟨rfl, rfl, rfl⟩), fun _ => rfl, hwr, hquiet, hrun,
      hf, hdis⟩
  | pod n | err e => cases h

theorem forwarderStep_inv {s s' : State} (hi : Inv s) (h : forwarderStep s s.forwarder = some s') :
    Inv s' := by
  have hpos := hi.wg_pos_forwarder
  have hzero := hi.quiet_of_wg_zero
  rcases s with ⟨c, names, de, fw, wk, wg, pc, pe, ec, lc, taken, errs, logs, f⟩
  obtain ⟨hwg, hfs, hws, hec, hlc, hnames, hfr, hwr, hquiet, hrun, hf, hdis⟩ := hi
  dsimp only at *
  cases fw with
  | notStarted | finished => cases h
  | receiving =>
    simp only [forwarderStep] at h
    split at h
    · cases h
      exact ⟨hwg, (iff_of_false nofun nofun).trans hfs, hws, hec.trans (iff_of_false nofun nofun),
        hlc, hnames.tail rfl, nofun, hwr, nofun, hrun, hf, hdis⟩
    · split at h
      · rename_i hpe
        have hne := hpos nofun rfl
        simp only [State.wgDone, Go.wgDoneOn_of_ne_zero hne, Option.some.injEq] at h
        subst h
        exact ⟨by
            simp only [ForwarderPc.counted, Bool.toNat_false, Bool.toNat_true] at hwg ⊢; omega,
          (iff_of_false nofun nofun).trans hfs, hws, hec.trans (iff_of_false nofun nofun), hlc,
          hnames, fun _ => hpe, hwr, nofun, hrun, hf, hdis⟩
      · cases h
  | sending e =>
    obtain rfl : ec = false := Bool.eq_false_iff.mpr fun h => nomatch hec.mp h
    cases h
    exact ⟨hwg, (iff_of_false nofun nofun).trans hfs, hws, iff_of_false nofun nofun, hlc, hnames,
      nofun, hwr, nofun, hrun, hf, hdis⟩
  | waiting =>
    simp only [forwarderStep] at h
    split at h
    · rename_i hz
      cases h
      exact ⟨hwg, (iff_of_false nofun nofun).trans hfs, hws, hec.trans (iff_of_false nofun nofun),
        hlc, hnames, hfr, hwr, fun _ => hzero hz rfl, hrun, hf, hdis⟩
    · cases h
  | closing =>
    obtain rfl : ec = false := Bool.eq_false_iff.mpr fun h => nomatch hec.mp h
    cases h
    exact ⟨hwg, (iff_of_false nofun nofun).trans hfs, hws, iff_of_true rfl rfl, hlc, hnames, hfr,
      hwr, hquiet, hrun, hf, hdis⟩

theorem ForwarderPc.counted_of_pastWait {f : ForwarderPc} (h : f.pastWait = true) :
    f.counted = true := by
  cases f <;> first | rfl | nomatch h

/-- The worker keeps the invariant, whatever it streams, as long as no pod's code itself
misuses a channel. -/
theorem workerStep_inv {work : String → Behaviour Send}
    (hwork : ∀ n, channelPanic (work n).ending = false) {s s' : State} (hi : Inv s)
    (h : workerStep work s s.worker = some s') : Inv s' := by
  have hpos := hi.wg_pos_worker
  rcases s with ⟨c, names, de, fw, wk, wg, pc, pe, ec, lc, taken, errs, logs, f⟩
  obtain ⟨hwg, hfs, hws, hec, hlc, hnames, hfr, hwr, hquiet, hrun, hf, hdis⟩ := hi
  dsimp only at *
  cases wk with
  | notStarted | finished => cases h
  | receiving =>
    simp only [workerStep] at h
    split at h
    · rename_i _ n rest
      cases h
      refine ⟨hwg, hfs, (iff_of_false nofun nofun).trans hws, hec, hlc, hnames.tail rfl, hfr,
        nofun, fun hp => ?_, fun _ hr => by cases hr; exact hwork n, hf, hdis⟩
      -- A closed `podErrC` means a closed `podC`, and then no name is left to take.
      rw [hfr (ForwarderPc.counted_of_pastWait hp)] at hnames
      rw [hnames.podClosed] at hnames
      nomatch hnames.closes_of_podClosed _ (List.mem_cons_self _ _)
    · split at h
      · rename_i hpc
        obtain rfl : lc = false := hlc
        cases h
        exact ⟨hwg, hfs, (iff_of_false nofun nofun).trans hws, hec, rfl, hnames, hfr,
          fun _ => hpc, fun _ => rfl, (fun _ h => nomatch h), hf, hdis⟩
      · cases h
  | running rest =>
    rcases rest with ⟨_ | ⟨op, sends⟩, e⟩
    · cases e with
      | returned =>
        cases h
        exact ⟨hwg, hfs, (iff_of_false nofun nofun).trans hws, hec, hlc, hnames, hfr, nofun,
          fun _ => rfl, (fun _ h => nomatch h), hf, hdis⟩
      | panicked p =>
        cases h
        exact ⟨hwg, hfs, hws, hec, hlc, hnames, hfr, hwr, hquiet, hrun,
          fun _ hq => by cases hq; exact hrun _ rfl, hdis⟩
      | blocked => cases h
    · cases op with
      | log l =>
        obtain rfl : lc = false := hlc
        cases h
        exact ⟨hwg, hfs, (iff_of_false nofun nofun).trans hws, hec, rfl, hnames, hfr, hwr, hquiet,
          (fun _ hr => by cases hr; exact (hrun _ rfl : channelPanic e = false)), hf, hdis⟩
      | err m =>
        -- `errC` is closed only once the forwarder is past `wg.Wait()`, when no worker streams.
        obtain rfl : ec = false := Bool.eq_false_iff.mpr fun hc =>
          nomatch hquiet (by rw [hec.mp hc]; rfl)
        cases h
        exact ⟨hwg, hfs, (iff_of_false nofun nofun).trans hws, hec, hlc, hnames, hfr, hwr, hquiet,
          (fun _ hr => by cases hr; exact (hrun _ rfl : channelPanic e = false)), hf, hdis⟩
  | done =>
    have hne := hpos nofun rfl
    simp only [workerStep, State.wgDone, Go.wgDoneOn_of_ne_zero hne, Option.some.injEq] at h
    subst h
    exact ⟨by simp only [WorkerPc.counted, Bool.toNat_false, Bool.toNat_true] at hwg ⊢; omega,
      hfs, (iff_of_false nofun nofun).trans hws, hec, hlc, hnames, hfr, hwr, fun _ => rfl,
      (fun _ h => nomatch h), hf, hdis⟩

theorem step_inv {work : String → Behaviour Send}
    (hwork : ∀ n, channelPanic (work n).ending = false) {s s' : State} (hi : Inv s)
    (h : Step work s s') : Inv s' := by
  obtain ⟨p, hp⟩ := h
  cases p <;> simp only [step] at hp <;> split_ifs at hp
  · exact callerStep_inv hi hp
  · exact forwarderStep_inv hi hp
  · exact workerStep_inv hwork hi hp
  · exact discoveryStep_inv hi hp

theorem Inv.reaches {work : String → Behaviour Send}
    (hwork : ∀ n, channelPanic (work n).ending = false) {s₀ s : State} (h₀ : Inv s₀)
    (h : Reaches work s₀ s) : Inv s := by
  induction h with
  | refl => exact h₀
  | tail _ hst ih => exact step_inv hwork ih hst

/-- **No channel is misused.** From a discovery trace that closes its channels last, every
state that any interleaving reaches has panicked, if at all, only in the code a goroutine
runs: never by a send on a closed channel, a second close, or a negative counter. -/
theorem Inv.channel_safe {work : String → Behaviour Send}
    (hwork : ∀ n, channelPanic (work n).ending = false) {b : Behaviour NameOp}
    (hb : ClosesLast b) (hd : channelPanic b.ending = false) {s : State}
    (h : Reaches work (initial b) s) : ∀ p, s.fault = some p → p.isChannel = false :=
  ((initial_inv hb hd).reaches hwork h).fault

/-! ## 5. Records arrive pod after pod -/

/-- The records the worker has still to send for the pod it is streaming. -/
def WorkerPc.pendingLogs : WorkerPc → List Log
  | .running rest => rest.logs
  | .notStarted | .receiving | .done | .finished => []

/-- What `logC` has carried, and what the worker has still to send. -/
def State.delivered (s : State) : List Log := s.logs ++ s.worker.pendingLogs

/-- The names the worker has taken, and those the discovery goroutine has still to send. -/
def State.podNames (s : State) : List String := s.taken ++ s.names.filterMap NameOp.pod?

theorem State.wgDone_delivered (s : State) : s.wgDone.delivered = s.delivered :=
  Go.wgDoneOn_cases (fun t : State => t.delivered = s.delivered) rfl fun _ => rfl

theorem State.wgDone_taken (s : State) : s.wgDone.taken = s.taken :=
  Go.wgDoneOn_cases (fun t : State => t.taken = s.taken) rfl fun _ => rfl

theorem State.wgDone_podNames (s : State) : s.wgDone.podNames = s.podNames :=
  Go.wgDoneOn_cases (fun t : State => t.podNames = s.podNames) rfl fun _ => rfl

/-- What one step does to the records and the names: nothing, or the worker takes the next
name `n`, and the records of `work n` join those to come. -/
def OrderStep (work : String → Behaviour Send) (s s' : State) : Prop :=
  s'.podNames = s.podNames ∧
    (s'.taken = s.taken ∧ s'.delivered = s.delivered ∨
      ∃ n, s'.taken = s.taken ++ [n] ∧ s'.delivered = s.delivered ++ (work n).logs)

theorem OrderStep.frame {work : String → Behaviour Send} {s s' : State}
    (hn : s'.podNames = s.podNames) (ht : s'.taken = s.taken) (hd : s'.delivered = s.delivered) :
    OrderStep work s s' :=
  ⟨hn, .inl ⟨ht, hd⟩⟩

theorem OrderStep.wgDone {work : String → Behaviour Send} {s s' : State}
    (h : OrderStep work s s') : OrderStep work s s'.wgDone := by
  rw [OrderStep, State.wgDone_podNames, State.wgDone_taken, State.wgDone_delivered]; exact h

theorem callerStep_order {work : String → Behaviour Send} {s s' : State} (hi : Inv s)
    (h : callerStep s s.caller = some s') : OrderStep work s s' := by
  have hws := hi.workerStarted
  rcases s with ⟨c, names, de, fw, wk, wg, pc, pe, ec, lc, taken, errs, logs, f⟩
  dsimp only at hws
  cases c <;> cases h
  · exact .frame rfl rfl rfl
  · exact .frame rfl rfl rfl
  · exact .frame rfl rfl rfl
  · -- The caller starts the worker once, from `notStarted`.
    obtain rfl : wk = .notStarted := hws.mpr Nat.one_lt_two
    exact .frame rfl rfl rfl

theorem forwarderStep_order {work : String → Behaviour Send} {s s' : State}
    (h : forwarderStep s s.forwarder = some s') : OrderStep work s s' := by
  rcases s with ⟨c, names, de, fw, wk, wg, pc, pe, ec, lc, taken, errs, logs, f⟩
  cases fw with
  | notStarted | finished => cases h
  | receiving =>
    simp only [forwarderStep] at h
    split at h
    · cases h
      exact .frame rfl rfl rfl
    · split at h
      · cases h; exact OrderStep.wgDone (.frame rfl rfl rfl)
      · cases h
  | sending e | closing => simp only [forwarderStep] at h; split at h <;> cases h <;> exact .frame rfl rfl rfl
  | waiting => simp only [forwarderStep] at h; split at h <;> cases h; exact .frame rfl rfl rfl

theorem discoveryStep_order {work : String → Behaviour Send} {s s' : State}
    (h : discoveryStep s s.names = some s') : OrderStep work s s' := by
  rcases s with ⟨c, names, de, fw, wk, wg, pc, pe, ec, lc, taken, errs, logs, f⟩
  rcases names with _ | ⟨op, rest⟩
  · simp only [discoveryStep] at h
    split at h
    · cases h; exact .frame rfl rfl rfl
    · cases h
  cases op with
  | recv x => cases h; exact .frame rfl rfl rfl
  | closePodC | closeErrC =>
    simp only [discoveryStep] at h; split at h <;> cases h <;> exact .frame rfl rfl rfl
  | pod n | err e => cases h

theorem workerStep_order {work : String → Behaviour Send} {s s' : State}
    (h : workerStep work s s.worker = some s') : OrderStep work s s' := by
  rcases s with ⟨c, names, de, fw, wk, wg, pc, pe, ec, lc, taken, errs, logs, f⟩
  cases wk with
  | notStarted | finished => cases h
  | receiving =>
    simp only [workerStep] at h
    split at h
    · rename_i _ n rest
      cases h
      refine ⟨by simp [State.podNames, NameOp.pod?], .inr ⟨n, rfl, ?_⟩⟩
      simp [State.delivered, WorkerPc.pendingLogs]
    · split at h
      · split at h <;> cases h <;> exact .frame rfl rfl rfl
      · cases h
  | running rest =>
    rcases rest with ⟨_ | ⟨op, sends⟩, e⟩
    · cases e with
      | returned | panicked p => cases h; exact .frame rfl rfl rfl
      | blocked => cases h
    · cases op with
      | log l =>
        simp only [workerStep] at h
        split at h <;> cases h
        · exact .frame rfl rfl rfl
        · exact .frame rfl rfl (by simp [State.delivered, WorkerPc.pendingLogs, Behaviour.logs])
      | err m => simp only [workerStep] at h; split at h <;> cases h <;> exact .frame rfl rfl rfl
  | done => cases h; exact OrderStep.wgDone (.frame rfl rfl rfl)

theorem step_order {work : String → Behaviour Send} {s s' : State} {p : Party} (hi : Inv s)
    (h : step work s p = some s') : OrderStep work s s' := by
  cases p <;> simp only [step] at h <;> split_ifs at h
  · exact callerStep_order hi h
  · exact forwarderStep_order h
  · exact workerStep_order h
  · exact discoveryStep_order h

/-- **Records arrive pod after pod.** In every state that any interleaving reaches, the
worker has taken a prefix of the names the discovery goroutine sends, in their order, and
`logC` has carried a prefix of those pods' records, each pod's in a block, in the same order:
the worker holds the rest of the current pod's. -/
theorem Reaches.order {work : String → Behaviour Send}
    (hwork : ∀ n, channelPanic (work n).ending = false) {b : Behaviour NameOp}
    (hb : ClosesLast b) (hd₀ : channelPanic b.ending = false) {s : State}
    (h : Reaches work (initial b) s) :
    s.podNames = b.sends.filterMap NameOp.pod? ∧
      s.delivered = s.taken.flatMap fun n => (work n).logs := by
  induction h with
  | refl => exact ⟨rfl, rfl⟩
  | tail hr hst ih =>
    obtain ⟨p, hp⟩ := hst
    obtain ⟨hn, hd⟩ := ih
    obtain ⟨hn', ⟨ht, hd'⟩ | ⟨n, ht, hd'⟩⟩ := step_order ((initial_inv hb hd₀).reaches hwork hr) hp
    · exact ⟨hn'.trans hn, by rw [hd', hd, ht]⟩
    · exact ⟨hn'.trans hn, by rw [hd', hd, ht, List.flatMap_append, List.flatMap_singleton]⟩

/-! ## 6. How every run ends

Once the discovery goroutine returns, a run stops in one of three ways: the code of a pod the
worker has taken panics, it blocks, or the run completes. A completed run has all four
goroutines finished and all four channels closed. The worker has taken every name sent, and
`errC` has carried a shuffle of the discovery goroutine's errors and the taken pods' errors,
each in its own order. No other state lets every goroutine stop. `EndInv` is the second
invariant this needs beside `Inv`: the closes still to come, the pod the worker streams,
where a panic comes from, and the errors carried so far. -/

/-- The error the forwarder holds, about to send it on `errC`. -/
def ForwarderPc.pendingErrs : ForwarderPc → List String
  | .sending e => [e]
  | .notStarted | .receiving | .waiting | .closing | .finished => []

/-- The errors the worker has still to send for the pod it is streaming. -/
def WorkerPc.pendingErrs : WorkerPc → List String
  | .running rest => rest.errs
  | .notStarted | .receiving | .done | .finished => []

/-- The discovery goroutine has still to close each channel it has not closed. -/
def ClosesAhead (names : List NameOp) (podClosed podErrClosed : Bool) : Prop :=
  (podClosed = false → .closePodC ∈ names) ∧ (podErrClosed = false → .closeErrC ∈ names)

namespace ClosesAhead

variable {op : NameOp} {rest : List NameOp} {pc pe : Bool}

theorem tail (h : ClosesAhead (op :: rest) pc pe) (hop : op.isClose = false) :
    ClosesAhead rest pc pe :=
  ⟨fun hpc => (List.mem_cons.mp (h.1 hpc)).resolve_left (by rintro rfl; nomatch hop),
    fun hpe => (List.mem_cons.mp (h.2 hpe)).resolve_left (by rintro rfl; nomatch hop)⟩

theorem closePodC (h : ClosesAhead (.closePodC :: rest) pc pe) : ClosesAhead rest true pe :=
  ⟨nofun, fun hpe => (List.mem_cons.mp (h.2 hpe)).resolve_left nofun⟩

theorem closeErrC (h : ClosesAhead (.closeErrC :: rest) pc pe) : ClosesAhead rest pc true :=
  ⟨fun hpc => (List.mem_cons.mp (h.1 hpc)).resolve_left nofun, nofun⟩

end ClosesAhead

/-- The invariant that decides how a run ends, over the discovery trace `b` and the pods'
code `work`. -/
structure EndInv (b : Behaviour NameOp) (work : String → Behaviour Send) (s : State) : Prop where
  discoveryEnd : s.discoveryEnd = b.ending
  closes : b.ending = .returned → ClosesAhead s.names s.podClosed s.podErrClosed
  running : ∀ rest, s.worker = .running rest → ∃ n ∈ s.taken, rest.ending = (work n).ending
  fault : ∀ p, s.fault = some p → p.isChannel = true ∨ b.ending = .panicked p ∨
    ∃ n ∈ s.taken, (work n).ending = .panicked p
  errs : ∃ a c,
    b.sends.filterMap NameOp.err? = a ++ s.forwarder.pendingErrs ++ s.names.filterMap NameOp.err? ∧
    s.taken.flatMap (fun n => (work n).errs) = c ++ s.worker.pendingErrs ∧ Interleaving a c s.errs

theorem initial_endInv {b : Behaviour NameOp} (hb : ClosesLast b) (work : String → Behaviour Send) :
    EndInv b work (initial b) := by
  refine ⟨rfl, fun hret => ?_, (fun _ h => nomatch h), (fun _ h => nomatch h), [], [], rfl, rfl, .nil⟩
  obtain ⟨body, -, heq⟩ := hb
  rw [hret, if_pos rfl] at heq
  exact ⟨fun _ => by simp [initial, heq], fun _ => by simp [initial, heq]⟩

section EndInv

variable {b : Behaviour NameOp} {work : String → Behaviour Send} {s s' : State}

/-- A panic on a channel keeps the invariant. -/
theorem EndInv.panic (he : EndInv b work s) {p : Panic} (hp : p.isChannel = true) :
    EndInv b work { s with fault := some p } :=
  ⟨he.discoveryEnd, he.closes, he.running, (fun _ h => by cases h; exact .inl hp), he.errs⟩

/-- `wg.Done()` keeps the invariant: a negative counter is a channel panic. -/
theorem EndInv.wgDone (he : EndInv b work s) : EndInv b work s.wgDone :=
  Go.wgDoneOn_cases (EndInv b work) (he.panic rfl)
    fun _ => ⟨he.discoveryEnd, he.closes, he.running, he.fault, he.errs⟩

theorem callerStep_endInv (hi : Inv s) (he : EndInv b work s)
    (h : callerStep s s.caller = some s') : EndInv b work s' := by
  have hfs := hi.forwarderStarted
  have hws := hi.workerStarted
  rcases s with ⟨c, names, de, fw, wk, wg, pc, pe, ec, lc, taken, errs, logs, f⟩
  obtain ⟨hde, hcl, hrun, hf, herrs⟩ := he
  dsimp only at *
  cases c <;> cases h
  · exact ⟨hde, hcl, hrun, hf, herrs⟩
  · obtain rfl : fw = .notStarted := hfs.mpr rfl
    exact ⟨hde, hcl, hrun, hf, herrs⟩
  · exact ⟨hde, hcl, hrun, hf, herrs⟩
  · obtain rfl : wk = .notStarted := hws.mpr Nat.one_lt_two
    exact ⟨hde, hcl, nofun, hf, herrs⟩

theorem discoveryStep_endInv (he : EndInv b work s) (h : discoveryStep s s.names = some s') :
    EndInv b work s' := by
  rcases s with ⟨c, names, de, fw, wk, wg, pc, pe, ec, lc, taken, errs, logs, f⟩
  obtain ⟨hde, hcl, hrun, hf, a, d, ha, hd, had⟩ := id he
  dsimp only at *
  rcases names with _ | ⟨op, rest⟩
  · -- The panic the discovery goroutine's trace ends in.
    simp only [discoveryStep] at h
    split at h
    · cases h
      exact ⟨hde, hcl, hrun, fun _ hq => by cases hq; exact .inr (.inl hde.symm), a, d, ha, hd, had⟩
    · cases h
  cases op with
  | recv x =>
    cases h
    exact ⟨hde, fun hr => (hcl hr).tail rfl, hrun, hf, a, d, by simpa using ha, hd, had⟩
  | closePodC =>
    simp only [discoveryStep] at h
    split at h <;> cases h
    · exact he.panic rfl
    · exact ⟨hde, fun hr => (hcl hr).closePodC, hrun, hf, a, d, by simpa using ha, hd, had⟩
  | closeErrC =>
    simp only [discoveryStep] at h
    split at h <;> cases h
    · exact he.panic rfl
    · exact ⟨hde, fun hr => (hcl hr).closeErrC, hrun, hf, a, d, by simpa using ha, hd, had⟩
  | pod n | err e => cases h

theorem forwarderStep_endInv (he : EndInv b work s) (h : forwarderStep s s.forwarder = some s') :
    EndInv b work s' := by
  rcases s with ⟨c, names, de, fw, wk, wg, pc, pe, ec, lc, taken, errs, logs, f⟩
  obtain ⟨hde, hcl, hrun, hf, a, d, ha, hd, had⟩ := id he
  dsimp only at *
  cases fw with
  | notStarted | finished => cases h
  | receiving =>
    simp only [forwarderStep] at h
    split at h
    · cases h
      exact ⟨hde, fun hr => (hcl hr).tail rfl, hrun, hf, a, d,
        by simpa [ForwarderPc.pendingErrs] using ha, hd, had⟩
    · split at h
      · cases h
        exact EndInv.wgDone ⟨hde, hcl, hrun, hf, a, d, ha, hd, had⟩
      · cases h
  | sending e =>
    simp only [forwarderStep] at h
    split at h <;> cases h
    · exact he.panic rfl
    · exact ⟨hde, hcl, hrun, hf, a ++ [e], d, by rw [ha]; simp [ForwarderPc.pendingErrs], hd,
        had.append_left e⟩
  | waiting =>
    simp only [forwarderStep] at h
    split at h <;> cases h
    exact ⟨hde, hcl, hrun, hf, a, d, ha, hd, had⟩
  | closing =>
    simp only [forwarderStep] at h
    split at h <;> cases h
    · exact he.panic rfl
    · exact ⟨hde, hcl, hrun, hf, a, d, ha, hd, had⟩

theorem workerStep_endInv (he : EndInv b work s) (h : workerStep work s s.worker = some s') :
    EndInv b work s' := by
  rcases s with ⟨c, names, de, fw, wk, wg, pc, pe, ec, lc, taken, errs, logs, f⟩
  obtain ⟨hde, hcl, hrun, hf, a, d, ha, hd, had⟩ := id he
  dsimp only at *
  cases wk with
  | notStarted | finished => cases h
  | receiving =>
    simp only [workerStep] at h
    split at h
    · rename_i _ n rest
      cases h
      refine ⟨hde, fun hr => (hcl hr).tail rfl, fun _ hr => ⟨n, by cases hr; simp⟩,
        fun p hp => (hf p hp).imp_right (.imp_right fun ⟨m, hm, hpm⟩ =>
          ⟨m, List.mem_append_left _ hm, hpm⟩),
        a, d, by simpa using ha, ?_, had⟩
      rw [List.flatMap_append, hd]
      simp [WorkerPc.pendingErrs]
    · split at h
      · split at h <;> cases h
        · exact he.panic rfl
        · exact ⟨hde, hcl, nofun, hf, a, d, ha, hd, had⟩
      · cases h
  | running rest =>
    obtain ⟨n, hn, hrn⟩ := hrun rest rfl
    rcases rest with ⟨_ | ⟨op, sends⟩, e⟩
    · cases e with
      | returned =>
        cases h
        exact ⟨hde, hcl, nofun, hf, a, d, ha, by simpa [WorkerPc.pendingErrs, Behaviour.errs] using hd,
          had⟩
      | panicked p =>
        cases h
        exact ⟨hde, hcl, hrun, (fun _ hq => by cases hq; exact .inr (.inr ⟨n, hn, hrn.symm⟩)), a, d, ha, hd,
          had⟩
      | blocked => cases h
    · cases op with
      | log l =>
        simp only [workerStep] at h
        split at h <;> cases h
        · exact he.panic rfl
        · exact ⟨hde, hcl, (fun _ hr => by cases hr; exact ⟨n, hn, hrn⟩), hf, a, d, ha,
            by simpa [WorkerPc.pendingErrs, Behaviour.errs] using hd, had⟩
      | err m =>
        simp only [workerStep] at h
        split at h <;> cases h
        · exact he.panic rfl
        · exact ⟨hde, hcl, (fun _ hr => by cases hr; exact ⟨n, hn, hrn⟩), hf, a, d ++ [m], ha,
            by rw [hd]; simp [WorkerPc.pendingErrs, Behaviour.errs], had.append_right m⟩
  | done =>
    cases h
    exact EndInv.wgDone ⟨hde, hcl, nofun, hf, a, d, ha, hd, had⟩

theorem step_endInv (hi : Inv s) (he : EndInv b work s) (h : Step work s s') : EndInv b work s' := by
  obtain ⟨p, hp⟩ := h
  cases p <;> simp only [step] at hp <;> split_ifs at hp
  · exact callerStep_endInv hi he hp
  · exact forwarderStep_endInv he hp
  · exact workerStep_endInv he hp
  · exact discoveryStep_endInv he hp

/-- Both invariants hold in every state a run reaches. -/
theorem Reaches.endInv (hwork : ∀ n, channelPanic (work n).ending = false) (hb : ClosesLast b)
    (hd : channelPanic b.ending = false) (h : Reaches work (initial b) s) :
    Inv s ∧ EndInv b work s := by
  induction h with
  | refl => exact ⟨initial_inv hb hd, initial_endInv hb work⟩
  | tail _ hst ih => exact ⟨step_inv hwork ih.1 hst, step_endInv ih.1 ih.2 hst⟩

end EndInv

/-! ### Where each goroutine can stop -/

theorem caller_of_blocked {s : State} (h : callerStep s s.caller = none) :
    s.caller = .returned := by
  cases hc : s.caller <;> rw [hc] at h <;> first | rfl | cases h

theorem discovery_of_blocked {s : State} (h : discoveryStep s s.names = none) :
    s.names = [] ∨ (∃ n rest, s.names = .pod n :: rest) ∨ ∃ e rest, s.names = .err e :: rest := by
  rcases hn : s.names with _ | ⟨op, rest⟩
  · exact .inl rfl
  rw [hn] at h
  cases op with
  | recv x => cases h
  | pod n => exact .inr (.inl ⟨n, rest, rfl⟩)
  | err e => exact .inr (.inr ⟨e, rest, rfl⟩)
  | closePodC | closeErrC => simp only [discoveryStep] at h; split at h <;> cases h

namespace Inv

variable {s : State}

/-- Once the caller has returned, the worker stops only finished, waiting on an open `podC`
with no name to take, or in a pod's code that blocks. -/
theorem worker_of_blocked {work : String → Behaviour Send} (hi : Inv s)
    (hc : s.caller = .returned) (h : workerStep work s s.worker = none) :
    s.worker = .finished ∨
      (s.worker = .receiving ∧ s.podClosed = false ∧ ∀ n rest, s.names ≠ .pod n :: rest) ∨
      s.worker = .running ⟨[], .blocked⟩ := by
  have hws := hi.workerStarted
  rcases s with ⟨c, names, de, fw, wk, wg, pc, pe, ec, lc, taken, errs, logs, f⟩
  dsimp only at *
  subst hc
  cases wk with
  | notStarted => exact absurd (hws.mp rfl) (Nat.lt_irrefl 2)
  | receiving =>
    simp only [workerStep] at h
    split at h
    · cases h
    · rename_i hnp
      split at h
      · split at h <;> cases h
      · rename_i hpc
        exact .inr (.inl ⟨rfl, by simpa using hpc, fun n rest heq => hnp n rest heq⟩)
  | running rest =>
    rcases rest with ⟨_ | ⟨op, sends⟩, e⟩
    · cases e with
      | blocked => exact .inr (.inr rfl)
      | _ => cases h
    · cases op <;> simp only [workerStep] at h <;> split at h <;> cases h
  | done => cases h
  | finished => exact .inl rfl

/-- Once the caller has returned, the forwarder stops only finished, waiting on an open
`podErrC` with no error to take, or in `wg.Wait()` while the counter is not zero. -/
theorem forwarder_of_blocked (hi : Inv s) (hc : s.caller = .returned)
    (h : forwarderStep s s.forwarder = none) :
    s.forwarder = .finished ∨
      (s.forwarder = .receiving ∧ s.podErrClosed = false ∧ ∀ e rest, s.names ≠ .err e :: rest) ∨
      (s.forwarder = .waiting ∧ s.wg ≠ 0) := by
  have hfs := hi.forwarderStarted
  rcases s with ⟨c, names, de, fw, wk, wg, pc, pe, ec, lc, taken, errs, logs, f⟩
  dsimp only at *
  subst hc
  cases fw with
  | notStarted => exact absurd (hfs.mp rfl) (Nat.succ_ne_zero 1)
  | receiving =>
    simp only [forwarderStep] at h
    split at h
    · cases h
    · rename_i hne
      split at h
      · cases h
      · rename_i hpe
        exact .inr (.inl ⟨rfl, by simpa using hpe, fun e rest heq => hne e rest heq⟩)
  | sending e | closing => simp only [forwarderStep] at h; split at h <;> cases h
  | waiting =>
    simp only [forwarderStep] at h
    split at h
    · cases h
    · rename_i hwg; exact .inr (.inr ⟨rfl, hwg⟩)
  | finished => exact .inl rfl

/-- With the caller returned and the worker finished, the forwarder stops only finished once
`podErrC` is closed: the counter is zero, so `wg.Wait()` returns. -/
theorem forwarder_finished (hi : Inv s) (hc : s.caller = .returned) (hw : s.worker = .finished)
    (hpe : s.podErrClosed = true) (h : forwarderStep s s.forwarder = none) :
    s.forwarder = .finished := by
  rcases hi.forwarder_of_blocked hc h with hfd | ⟨-, hpe', -⟩ | ⟨hwt, hwg⟩
  · exact hfd
  · rw [hpe] at hpe'; cases hpe'
  · have := hi.wg
    rw [hwt, hw, hc] at this
    simp only [ForwarderPc.counted, WorkerPc.counted, PodLogs.CallerPc.adds,
      Bool.toNat_true] at this
    omega

/-- A closed `podC` leaves no name and no error to send. -/
theorem no_send_of_podClosed (hi : Inv s) (hpc : s.podClosed = true) :
    (∀ n rest, s.names ≠ .pod n :: rest) ∧ ∀ e rest, s.names ≠ .err e :: rest := by
  have hcl := (hpc ▸ hi.names).closes_of_podClosed
  exact ⟨fun n rest heq => (nomatch hcl (.pod n) (heq ▸ List.mem_cons_self _ _)),
    fun e rest heq => nomatch hcl (.err e) (heq ▸ List.mem_cons_self _ _)⟩

/-- A forwarder past its `wg.Done()` has seen `podErrC` closed, and so `podC` closed. -/
theorem podClosed_of_counted (hi : Inv s) (hc : s.forwarder.counted = true) :
    s.podClosed = true :=
  (hi.forwarderRange hc ▸ hi.names).podClosed

/-- **Where a run stops.** A state where no goroutine can act, once the discovery goroutine has
returned: a taken pod's code has panicked (never on a channel); a taken pod's code blocks; or
the run has completed, with every goroutine finished, every channel closed, nothing left for
the discovery goroutine to do, and `errC` having carried a shuffle of the discovery
goroutine's errors and the taken pods' errors. -/
theorem ends {b : Behaviour NameOp} {work : String → Behaviour Send} (hi : Inv s)
    (he : EndInv b work s) (hb : b.ending = .returned) (hend : ∀ p, step work s p = none) :
    (∃ p, s.fault = some p ∧ p.isChannel = false ∧ ∃ n ∈ s.taken, (work n).ending = .panicked p) ∨
    (s.fault = none ∧ s.worker = .running ⟨[], .blocked⟩ ∧
      ∃ n ∈ s.taken, (work n).ending = .blocked) ∨
    (s.fault = none ∧ s.caller = .returned ∧ s.forwarder = .finished ∧ s.worker = .finished ∧
      s.names = [] ∧ s.podClosed = true ∧ s.podErrClosed = true ∧ s.errClosed = true ∧
      s.logClosed = true ∧
      Interleaving (b.sends.filterMap NameOp.err?) (s.taken.flatMap fun n => (work n).errs)
        s.errs) := by
  cases hf : s.fault with
  | some p =>
    have hp := hi.fault p hf
    rcases he.fault p hf with hch | hdp | hn
    · rw [hp] at hch; cases hch
    · rw [hb] at hdp; cases hdp
    · exact .inl ⟨p, rfl, hp, hn⟩
  | none =>
    have hc := hend .caller
    have hfw := hend .forwarder
    have hwk := hend .worker
    have hd := hend .discovery
    simp only [step, hf, Option.isSome_none, Bool.false_eq_true, ↓reduceIte] at hc hfw hwk hd
    have hcall := caller_of_blocked hc
    have hca := he.closes hb
    rcases hi.worker_of_blocked hcall hwk with hw | ⟨-, hpc, hnp⟩ | hw
    · -- The worker has closed `logC`, so `podC` is closed and only closes can be left.
      have hpc : s.podClosed = true := hi.workerRange (by rw [hw]; rfl)
      obtain ⟨hnp, hne⟩ := hi.no_send_of_podClosed hpc
      have hn : s.names = [] := by
        rcases discovery_of_blocked hd with hn | ⟨n, rest, hn⟩ | ⟨e, rest, hn⟩
        · exact hn
        · exact absurd hn (hnp n rest)
        · exact absurd hn (hne e rest)
      have hpe : s.podErrClosed = true :=
        Bool.not_eq_false _ ▸ fun hpe => List.not_mem_nil _ (hn ▸ hca.2 hpe)
      have hfd := hi.forwarder_finished hcall hw hpe hfw
      obtain ⟨a, d, ha, hd, had⟩ := he.errs
      rw [hfd, hn, ForwarderPc.pendingErrs, List.filterMap_nil, List.append_nil,
        List.append_nil] at ha
      rw [hw, WorkerPc.pendingErrs, List.append_nil] at hd
      exact .inr (.inr ⟨rfl, hcall, hfd, hw, hn, hpc, hpe, hi.errClosed.mpr hfd,
        by rw [hi.logClosed, hw]; rfl, ha ▸ hd ▸ had⟩)
    · -- `podC` is open, so its close is still ahead and a name or an error is next.
      exfalso
      have hne : s.names ≠ [] := fun hn => List.not_mem_nil _ (hn ▸ hca.1 hpc)
      rcases discovery_of_blocked hd with hn | ⟨n, rest, hn⟩ | ⟨e, rest, hn⟩
      · exact hne hn
      · exact hnp n rest hn
      · -- An error is next: the forwarder would take it, unless it has seen `podErrC` closed.
        rcases hi.forwarder_of_blocked hcall hfw with hfd | ⟨-, -, hne'⟩ | ⟨hwt, -⟩
        · exact absurd (hi.podClosed_of_counted (by rw [hfd]; rfl)) (by rw [hpc]; nofun)
        · exact hne' e rest hn
        · exact absurd (hi.podClosed_of_counted (by rw [hwt]; rfl)) (by rw [hpc]; nofun)
    · obtain ⟨n, hn, hrn⟩ := he.running _ hw
      exact .inr (.inl ⟨rfl, hw, n, hn, hrn.symm⟩)

end Inv

/-! ## 7. `readLiveTaskLogs` -/

/-- A pod's iteration panics, if at all, in its own code (the failed assertion of `Wait`'s
handler, or the nil pod of a failed fetch), never on a channel. -/
theorem liveWork_channel_safe (r : Reader) (cluster : String → Pods.Pod) (n : String) :
    channelPanic (liveWork r cluster n).ending = false := by
  rw [liveWork, streamPod_ending]
  split
  · rfl
  · rfl
  · split <;> rfl

/-- The discovery goroutine panics, if at all, on the zero event of a closed watch, never on
a channel. -/
theorem podNamesGoroutine_channel_safe (r : Reader) (run : TaskRun) (inputs : List WatchInput) :
    channelPanic (podNamesGoroutine r run inputs).ending = false := by
  cases h : (podNamesGoroutine r run inputs).ending with
  | panicked p => rw [podNamesGoroutine_panics r run inputs p h]; rfl
  | returned | blocked => rfl

theorem readLiveTaskLogs_eq_ok {r : Reader} {run : TaskRun}
    {watch : Except String (List WatchInput)} {s₀ : State}
    (h : readLiveTaskLogs r run watch = .ok s₀) :
    ∃ inputs, watch = .ok inputs ∧ s₀ = initial (podNamesGoroutine r run inputs) := by
  cases watch with
  | error e => cases h
  | ok inputs => cases h; exact ⟨inputs, rfl, rfl⟩

/-- Followed pods that each run one step printing `l`, and whose `Wait` settles on the pod. -/
def liveCluster (name : String) : Pods.Pod :=
  ⟨⟨some (runPod name), none⟩, .returned (Pods.checkPodStatus (.pod (runPod name))),
    fun _ _ _ => .ok (lineStream "l"), fun _ => none⟩

/-- Following the run that retried twice before the watch (`Log/PodNames.lean`): the
discovery goroutine sends `build-pod` and `build-pod-retry2` and returns, and the run
completes with both pods' records sent. -/
def liveRunDone : State :=
  ⟨.returned, [], .returned, .finished, .finished, 0, true, true, true, true,
    ["build-pod", "build-pod-retry2"], [],
    [watchReader.logOf ⟨"run", "step-run", {}⟩ "l", watchReader.logOf ⟨"run", "step-run", {}⟩ eofLog,
      watchReader.logOf ⟨"run", "step-run", {}⟩ "l", watchReader.logOf ⟨"run", "step-run", {}⟩ eofLog],
    none⟩

theorem liveRunDone_schedule :
    runSchedule (liveWork watchReader liveCluster)
      (initial (podNamesGoroutine watchReader firstAttempt [.event (.taskRun thirdAttempt)]))
      [.caller, .caller, .caller, .caller, .worker, .worker, .worker, .worker, .discovery,
        .worker, .worker, .worker, .worker, .discovery, .discovery, .worker, .worker, .forwarder,
        .forwarder, .forwarder] = some liveRunDone := rfl

theorem liveRunDone_reached :
    Reaches (liveWork watchReader liveCluster)
      (initial (podNamesGoroutine watchReader firstAttempt [.event (.taskRun thirdAttempt)]))
      liveRunDone :=
  runSchedule_reaches _ liveRunDone_schedule

/-- **Live mode misuses no channel, and delivers pod after pod.** Whatever the watch and the
cluster deliver and however the four goroutines interleave: no send on a closed channel, no
second close, no negative counter; `logC` has carried a prefix of the records of the pods
the worker has taken, pod after pod; and the worker has taken the names the discovery
goroutine sends, in their order. -/
theorem readLiveTaskLogs_runs (r : Reader) (run : TaskRun)
    (watch : Except String (List WatchInput)) (cluster : String → Pods.Pod) (s₀ s : State)
    (h₀ : readLiveTaskLogs r run watch = .ok s₀) (h : Reaches (liveWork r cluster) s₀ s) :
    (∀ p, s.fault = some p → p.isChannel = false) ∧
    s.logs ++ s.worker.pendingLogs = s.taken.flatMap (fun n => (liveWork r cluster n).logs) ∧
    ∃ inputs, watch = .ok inputs ∧
      s.taken ++ s.names.filterMap NameOp.pod? =
        (podNamesGoroutine r run inputs).sends.filterMap NameOp.pod? := by
  obtain ⟨inputs, rfl, rfl⟩ := readLiveTaskLogs_eq_ok h₀
  have hb := podNamesGoroutine_closes r run inputs
  have hdc := podNamesGoroutine_channel_safe r run inputs
  have hwork := liveWork_channel_safe r cluster
  obtain ⟨hn, hd⟩ := Reaches.order hwork hb hdc h
  exact ⟨Inv.channel_safe hwork hb hdc h, hd, inputs, rfl, hn⟩

/-- The followed run's records arrive pod after pod. -/
theorem liveRunDone_in_order :
    liveRunDone.logs ++ liveRunDone.worker.pendingLogs =
      liveRunDone.taken.flatMap fun n => (liveWork watchReader liveCluster n).logs :=
  (readLiveTaskLogs_runs watchReader firstAttempt (.ok [.event (.taskRun thirdAttempt)])
    liveCluster _ _ rfl liveRunDone_reached).2.1

/-- **Where live mode stops.** Once the discovery goroutine has returned, a run of the four
goroutines that `readLiveTaskLogs` starts, over any cluster, stops in one of four ways. The
worker may have dereferenced the nil pod of a fetch that returned no snapshot. It may have
panicked in a `Wait` whose handler failed its type assertion. It may be blocked in a `Wait`
that never returns. Otherwise the run has completed: `errC` and `logC` are closed, and the
worker has taken every name the discovery goroutine sent, in order. `logC` has carried all
of those pods' records, pod after pod, and `errC` a shuffle of the discovery goroutine's
errors and the pods' errors. -/
theorem readLiveTaskLogs_ends (r : Reader) (run : TaskRun) (inputs : List WatchInput)
    (cluster : String → Pods.Pod) (s₀ s : State)
    (h₀ : readLiveTaskLogs r run (.ok inputs) = .ok s₀)
    (hdisc : (podNamesGoroutine r run inputs).ending = .returned)
    (h : Reaches (liveWork r cluster) s₀ s) (hend : ∀ p, step (liveWork r cluster) s p = none) :
    (s.fault = some .nilPointerDereference ∧ ∃ n ∈ s.taken, ∃ res,
      (if r.follow then (cluster n).wait else .returned (cluster n).get) = .returned res ∧
        res.pod = none) ∨
    (s.fault = some .failedTypeAssertion ∧
      ∃ n ∈ s.taken,
        (if r.follow then (cluster n).wait else .returned (cluster n).get) = .panicked) ∨
    (s.fault = none ∧
      ∃ n ∈ s.taken,
        (if r.follow then (cluster n).wait else .returned (cluster n).get) = .blocked) ∨
    (s.fault = none ∧ s.errClosed = true ∧ s.logClosed = true ∧
      s.taken = (podNamesGoroutine r run inputs).sends.filterMap NameOp.pod? ∧
      s.logs = s.taken.flatMap (fun n => (liveWork r cluster n).logs) ∧
      Interleaving ((podNamesGoroutine r run inputs).sends.filterMap NameOp.err?)
        (s.taken.flatMap fun n => (liveWork r cluster n).errs) s.errs) := by
  obtain rfl : s₀ = initial (podNamesGoroutine r run inputs) := (Except.ok.inj h₀).symm
  have hwork := liveWork_channel_safe r cluster
  have hb := podNamesGoroutine_closes r run inputs
  have hdc := podNamesGoroutine_channel_safe r run inputs
  obtain ⟨hi, he⟩ := Reaches.endInv hwork hb hdc h
  rcases hi.ends he hdisc hend with ⟨p, hf, -, n, hn, hp⟩ | ⟨hf, -, n, hn, hbl⟩ |
      ⟨hf, -, -, hw, hnames, -, -, hec, hlc, herrs⟩
  · rw [liveWork, streamPod_ending] at hp
    split at hp
    · cases hp
    · cases hp
      exact .inr (.inl ⟨hf, n, hn, by assumption⟩)
    · rename_i res hres
      split at hp
      · cases hp
        exact .inl ⟨hf, n, hn, res, hres, by assumption⟩
      · cases hp
  · rw [liveWork, streamPod_ending] at hbl
    split at hbl
    · exact .inr (.inr (.inl ⟨hf, n, hn, by assumption⟩))
    · cases hbl
    · split at hbl <;> cases hbl
  · obtain ⟨hn, hd⟩ := Reaches.order hwork hb hdc h
    rw [State.podNames, hnames, List.filterMap_nil, List.append_nil] at hn
    rw [State.delivered, hw, WorkerPc.pendingLogs, List.append_nil] at hd
    exact .inr (.inr (.inr ⟨hf, hec, hlc, hn, hd, herrs⟩))

/-- The followed run completes with both pods delivered: every goroutine is stopped, and the
worker has taken the names the discovery goroutine sent. -/
theorem liveRunDone_delivered :
    (∀ p, step (liveWork watchReader liveCluster) liveRunDone p = none) ∧
      liveRunDone.taken =
        (podNamesGoroutine watchReader firstAttempt [.event (.taskRun thirdAttempt)]).sends.filterMap
          NameOp.pod? :=
  have hend : ∀ p, step (liveWork watchReader liveCluster) liveRunDone p = none :=
    fun p => by cases p <;> rfl
  ⟨hend, by
    rcases readLiveTaskLogs_ends watchReader firstAttempt [.event (.taskRun thirdAttempt)]
        liveCluster _ _ rfl rfl liveRunDone_reached hend with
      ⟨hf, -⟩ | ⟨hf, -⟩ | ⟨-, n, -, hn⟩ | ⟨-, -, -, ht, -⟩
    · cases hf
    · cases hf
    · cases hn
    · exact ht⟩

/-! ## 8. Every run is finite

No interleaving of the four goroutines goes on for ever. `State.rank` bounds the actions left.
The caller has its own. Each operation the discovery goroutine has still to do counts: a
name also pays for the pod the worker will stream. The forwarder and the worker each have
their own, and a panic costs one more. Every action lowers the rank. A name the worker takes
trades its cost for the pod's sends, and an error the forwarder takes trades its cost for
the send on `errC`. -/

/-- What an operation of the discovery goroutine costs the run: a name, its taking and the
pod's sends; an error, its taking and its forwarding; anything else, itself. -/
def opRank (work : String → Behaviour Send) : NameOp → Nat
  | .pod n => (work n).sends.length + 2
  | .err _ => 2
  | .recv _ | .closePodC | .closeErrC => 1

/-- What the operations the discovery goroutine has still to do cost the run. -/
def opsRank (work : String → Behaviour Send) : List NameOp → Nat
  | [] => 0
  | op :: ops => opRank work op + opsRank work ops

/-- The forwarder's actions left, once `podErrC` is closed. -/
def ForwarderPc.rank : ForwarderPc → Nat
  | .notStarted | .receiving => 3
  | .sending _ => 4
  | .waiting => 2
  | .closing => 1
  | .finished => 0

/-- The worker's actions left, once `podC` is closed. -/
def WorkerPc.rank : WorkerPc → Nat
  | .notStarted | .receiving => 2
  | .running rest => rest.sends.length + 3
  | .done => 1
  | .finished => 0

/-- The actions left to the four goroutines, at most. -/
def State.rank (work : String → Behaviour Send) (s : State) : Nat :=
  s.caller.rank + opsRank work s.names + s.forwarder.rank + s.worker.rank +
    if s.fault = none then 1 else 0

section Rank

variable {work : String → Behaviour Send}

theorem State.rank_wgDone (s : State) : s.wgDone.rank work ≤ s.rank work :=
  Go.wgDoneOn_cases (fun t : State => t.rank work ≤ s.rank work)
    (by simp only [State.rank, reduceCtorEq, ↓reduceIte]; omega) fun _ => le_rfl

/-- Every action lowers the rank. The caller starts each goroutine once, so starting one
costs nothing. -/
theorem step_rank {s s' : State} {p : Party} (hi : Inv s) (h : step work s p = some s') :
    s'.rank work < s.rank work := by
  have hfs := hi.forwarderStarted
  have hws := hi.workerStarted
  rcases s with ⟨c, names, de, fw, wk, wg, pc, pe, ec, lc, taken, errs, logs, _ | f⟩
  · dsimp only at hfs hws
    cases p <;> simp only [step, Option.isSome_none, Bool.false_eq_true, ↓reduceIte] at h
    · cases c <;> cases h
      · simp only [State.rank, PodLogs.CallerPc.rank, ↓reduceIte]; omega
      · obtain rfl : fw = .notStarted := hfs.mpr rfl
        simp only [State.rank, PodLogs.CallerPc.rank, ForwarderPc.rank, ↓reduceIte]; omega
      · simp only [State.rank, PodLogs.CallerPc.rank, ↓reduceIte]; omega
      · obtain rfl : wk = .notStarted := hws.mpr Nat.one_lt_two
        simp only [State.rank, PodLogs.CallerPc.rank, WorkerPc.rank, ↓reduceIte]; omega
    · cases fw with
      | notStarted | finished => cases h
      | receiving =>
        simp only [forwarderStep] at h
        split at h
        · cases h
          simp only [State.rank, ForwarderPc.rank, opsRank, opRank,
            ↓reduceIte]
          omega
        · split at h
          · cases h
            refine lt_of_le_of_lt (State.rank_wgDone _) ?_
            simp only [State.rank, ForwarderPc.rank, ↓reduceIte]
            omega
          · cases h
      | _ =>
        simp only [forwarderStep] at h
        split at h <;> cases h <;>
          simp only [State.rank, ForwarderPc.rank, reduceCtorEq, ↓reduceIte] <;> omega
    · cases wk with
      | notStarted | finished => cases h
      | receiving =>
        simp only [workerStep] at h
        split at h
        · cases h
          simp only [State.rank, WorkerPc.rank, opsRank, opRank, ↓reduceIte]
          omega
        · (repeat' split at h) <;> cases h <;>
            simp only [State.rank, WorkerPc.rank, reduceCtorEq, ↓reduceIte] <;> omega
      | running rest =>
        rcases rest with ⟨_ | ⟨op, sends⟩, e⟩
        · cases e <;> cases h <;>
            simp only [State.rank, WorkerPc.rank, List.length_nil, reduceCtorEq, ↓reduceIte] <;>
            omega
        · cases op <;> simp only [workerStep] at h <;> split at h <;> cases h <;>
            simp only [State.rank, WorkerPc.rank, List.length_cons, reduceCtorEq, ↓reduceIte] <;>
            omega
      | done =>
        cases h
        refine lt_of_le_of_lt (State.rank_wgDone _) ?_
        simp only [State.rank, WorkerPc.rank, ↓reduceIte]
        omega
    · rcases names with _ | ⟨op, rest⟩
      · simp only [discoveryStep] at h
        split at h <;> cases h
        simp only [State.rank, reduceCtorEq, ↓reduceIte]
        omega
      cases op <;> simp only [discoveryStep] at h <;> (repeat' split at h) <;> cases h <;>
        simp only [State.rank, opsRank, opRank, reduceCtorEq,
          ↓reduceIte] <;> omega
  · cases p <;> simp [step] at h

end Rank

/-- **Every run in live mode is finite.** Whatever the watch delivers and whatever each pod's
code does, however the four goroutines `readLiveTaskLogs` starts interleave, they act at
most ten times more than the discovery goroutine's operations cost: one for each input and
close, two for each error, and two more than its sends for each pod. -/
theorem readLiveTaskLogs_run_length_le (r : Reader) (run : TaskRun) (inputs : List WatchInput)
    (cluster : String → Pods.Pod) (s₀ s : State) (ps : List Party)
    (h₀ : readLiveTaskLogs r run (.ok inputs) = .ok s₀)
    (h : runSchedule (liveWork r cluster) s₀ ps = some s) :
    ps.length ≤ opsRank (liveWork r cluster) (podNamesGoroutine r run inputs).sends + 10 := by
  obtain rfl : s₀ = initial (podNamesGoroutine r run inputs) := (Except.ok.inj h₀).symm
  have := Go.runSchedule_length_add_rank (State.rank (liveWork r cluster))
    (fun hi h => step_inv (liveWork_channel_safe r cluster) hi ⟨_, h⟩) (fun hi h => step_rank hi h)
    ps (initial_inv (podNamesGoroutine_closes r run inputs)
      (podNamesGoroutine_channel_safe r run inputs)) h
  simp only [State.rank, initial, PodLogs.CallerPc.rank, ForwarderPc.rank, WorkerPc.rank,
    ↓reduceIte] at this
  omega

/-- The followed run takes twenty of the twenty-four actions its discovery trace allows. -/
theorem liveRunDone_run_bounded :
    [Party.caller, .caller, .caller, .caller, .worker, .worker, .worker, .worker, .discovery,
      .worker, .worker, .worker, .worker, .discovery, .discovery, .worker, .worker, .forwarder,
      .forwarder, .forwarder].length ≤
      opsRank (liveWork watchReader liveCluster)
        (podNamesGoroutine watchReader firstAttempt [.event (.taskRun thirdAttempt)]).sends + 10 :=
  readLiveTaskLogs_run_length_le watchReader firstAttempt [.event (.taskRun thirdAttempt)]
    liveCluster _ _ _ rfl liveRunDone_schedule

end LiveLogs
end TaskReader
end TektonLogs
