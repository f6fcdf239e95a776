import TektonLogs.Pods.Wait

/-!
# The watcher's mutex protocol: what holds, and what does not

Three facts about the system of `Pods/Wait.lean`, over every interleaving of Wait with the
informer's listener and every finite sequence of notifications.

* **The channels are closed safely** (`mutexProtocol_of_reaches`). No handler sends on a
  closed `eventC`, neither channel is closed twice, and both closes happen inside one
  critical section of `mu`. The proof is an inductive invariant (`Inv`) that reads the
  holder of `mu` and the state of both channels off the two program counters.
* **Wait can deadlock** (`wait_deadlocks_on_late_notification`). The mutex that makes the
  closes safe is held across the blocking send: a notification whose handler takes `mu`
  after Wait's loop has broken, and before its deferred `mu.Lock()`, sends on `eventC`
  that nobody receives any more, and Wait waits for `mu` for ever.
* **A tombstone crashes the delete handler** (`deleteFunc_panics_on_tombstone`). The log
  line in `DeleteFunc` asserts `obj.(*corev1.Pod)` before the object reaches
  `checkPodStatus`, whose non-pod branch exists to handle exactly that object.
-/

set_option autoImplicit false

namespace TektonLogs
namespace Pods

open Corev1 Go

/-! ## 1. Reading the protocol state off the program counters -/

/-- Wait holds `mu` between its deferred `Lock` and `Unlock`. -/
@[simp] def WaitPc.holdsMu : WaitPc → Bool
  | .get _ | .watch | .sync | .recv | .lock _ | .returned _ => false
  | .closeStop _ | .closeEvent _ | .unlock _ => true

/-- Wait has not yet registered the handlers. -/
@[simp] def WaitPc.beforeWatch : WaitPc → Bool
  | .get _ | .watch => true
  | .sync | .recv | .lock _ | .closeStop _ | .closeEvent _ | .unlock _ | .returned _ => false

/-- Wait has passed `close(stopC)`. -/
@[simp] def WaitPc.closedStop : WaitPc → Bool
  | .get _ | .watch | .sync | .recv | .lock _ | .closeStop _ => false
  | .closeEvent _ | .unlock _ | .returned _ => true

/-- Wait has passed `close(eventC)`. -/
@[simp] def WaitPc.closedEvent : WaitPc → Bool
  | .get _ | .watch | .sync | .recv | .lock _ | .closeStop _ | .closeEvent _ => false
  | .unlock _ | .returned _ => true

/-- Wait is past `p.watcher(...)` and not yet returned. -/
@[simp] def WaitPc.watching : WaitPc → Bool
  | .get _ | .watch | .returned _ => false
  | .sync | .recv | .lock _ | .closeStop _ | .closeEvent _ | .unlock _ => true

/-- A handler holds `mu` from its `Lock` to its deferred `Unlock`. -/
@[simp] def ListenerPc.holdsMu : ListenerPc → Bool
  | .idle | .lock _ => false
  | .select _ | .send _ | .unlock => true

/-- The holder of `mu` the program counters determine. -/
@[simp] def muOf (w : WaitPc) (l : ListenerPc) : Option Holder :=
  if w.holdsMu then some .wait else if l.holdsMu then some .listener else none

theorem WaitPc.closedStop_of_closedEvent {w : WaitPc} (h : w.closedEvent = true) :
    w.closedStop = true := by
  cases w <;> cases h <;> rfl

/-- Between its two closes Wait holds `mu`. -/
theorem WaitPc.holdsMu_of_closedStop {w : WaitPc} (hs : w.closedStop = true)
    (he : w.closedEvent = false) : w.holdsMu = true := by
  cases w <;> cases hs <;> cases he
  rfl

theorem muOf_eq_none {w : WaitPc} {l : ListenerPc} :
    muOf w l = none ↔ w.holdsMu = false ∧ l.holdsMu = false := by
  unfold muOf; cases w.holdsMu <;> cases l.holdsMu <;> simp

theorem muOf_of_listener {w : WaitPc} (l : ListenerPc) (hw : w.holdsMu = false)
    (hl : l.holdsMu = true) : muOf w l = some .listener := by
  rw [muOf, hw, hl]; rfl

/-- The inductive invariant. -/
structure Inv (s : State) : Prop where
  mu : s.mu = muOf s.wait s.listener
  exclusive : s.wait.holdsMu = true → s.listener.holdsMu = false
  stop : s.stopClosed = (s.started && s.wait.closedStop)
  event : s.eventClosed = (s.started && s.wait.closedEvent)
  started : s.wait.watching = true → s.started = true
  before : s.wait.beforeWatch = true → s.started = false
  idle : s.started = false → s.listener = .idle
  sendOpen : ∀ o, s.listener = .send o → s.stopClosed = false
  fault : s.fault = none ∨ s.fault = some .failedTypeAssertion

theorem initial_inv (probe : Option String) (ns : List Notification) :
    Inv (initial probe ns) :=
  ⟨rfl, nofun, rfl, rfl, nofun, fun _ => rfl, fun _ => rfl, (fun _ h => nomatch h), .inl rfl⟩

/-- Each of Wait's steps keeps the invariant. Before `watch` the informer has not started and
the listener is idle; from `sync` on, `started` holds, so the closed flags follow Wait's
program counter; inside its critical section Wait holds `mu`, so the listener holds nothing
and is not sending. -/
theorem waitStep_inv {s s' : State} (hi : Inv s) (h : waitStep s s.wait = some s') :
    Inv s' := by
  rcases s with ⟨w, l, pend, st, mu, sc, ec, f⟩
  obtain ⟨hmu, hex, hstop, hev, hst, hbef, hidle, hsend, hf⟩ := hi
  dsimp only at *
  subst hmu hstop hev
  cases w with
  | get probe =>
    obtain rfl : st = false := hbef rfl
    obtain rfl : l = .idle := hidle rfl
    cases probe <;> cases h <;>
      exact ⟨rfl, nofun, rfl, rfl, nofun, fun _ => rfl, fun _ => rfl, (fun _ h => nomatch h), hf⟩
  | watch =>
    obtain rfl : st = false := hbef rfl
    obtain rfl : l = .idle := hidle rfl
    cases h
    exact ⟨rfl, nofun, rfl, rfl, fun _ => rfl, nofun, nofun, (fun _ h => nomatch h), hf⟩
  | sync =>
    cases h
    exact ⟨rfl, nofun, rfl, rfl, fun _ => hst rfl, nofun, hidle, hsend, hf⟩
  | recv =>
    obtain rfl : st = true := hst rfl
    cases l <;> cases h
    split <;>
      exact ⟨rfl, nofun, rfl, rfl, fun _ => rfl, nofun, nofun, (fun _ h => nomatch h), hf⟩
  | lock res =>
    obtain rfl : st = true := hst rfl
    simp only [waitStep] at h
    split at h
    · rename_i hm
      cases h
      exact ⟨rfl, fun _ => (muOf_eq_none.mp hm).2, rfl, rfl, fun _ => rfl, nofun, nofun,
        fun _ _ => rfl, hf⟩
    · cases h
  | closeStop res =>
    obtain rfl : st = true := hst rfl
    have hl : l.holdsMu = false := hex rfl
    cases h
    exact ⟨rfl, fun _ => hl, rfl, rfl, fun _ => rfl, nofun, nofun,
      (by rintro _ rfl; nomatch hl), hf⟩
  | closeEvent res =>
    obtain rfl : st = true := hst rfl
    have hl : l.holdsMu = false := hex rfl
    cases h
    exact ⟨rfl, fun _ => hl, rfl, rfl, fun _ => rfl, nofun, nofun,
      (by rintro _ rfl; nomatch hl), hf⟩
  | unlock res =>
    obtain rfl : st = true := hst rfl
    have hl : l.holdsMu = false := hex rfl
    cases h
    exact ⟨by rw [eq_comm, muOf_eq_none]; exact ⟨rfl, hl⟩, nofun, rfl, rfl, nofun, nofun, nofun,
      (by rintro _ rfl; nomatch hl), hf⟩
  | returned res => cases h

/-- Each of the listener's steps keeps the invariant. It moves neither Wait nor the informer;
it takes `mu` only when nobody holds it, and it sends only after finding `stopC` open. -/
theorem listenerStep_inv {s s' : State} (hi : Inv s) (h : listenerStep s s.listener = some s') :
    Inv s' := by
  rcases s with ⟨w, l, pend, st, mu, sc, ec, f⟩
  obtain ⟨hmu, hex, hstop, hev, hst, hbef, hidle, hsend, hf⟩ := hi
  dsimp only at *
  subst hmu hstop hev
  cases l with
  | idle =>
    cases st <;> cases pend <;> cases h
    exact ⟨rfl, fun _ => rfl, rfl, rfl, hst, hbef, nofun, (fun _ h => nomatch h), hf⟩
  | lock n =>
    simp only [listenerStep] at h
    split at h
    · rename_i hm
      have hw : w.holdsMu = false := (muOf_eq_none.mp hm).1
      cases h
      exact ⟨(muOf_of_listener (.select n) hw rfl).symm, (fun h => nomatch hw.symm.trans h), rfl, rfl, hst,
        hbef, (fun h => nomatch hidle h), (fun _ h => nomatch h), hf⟩
    · cases h
  | select n =>
    simp only [listenerStep] at h
    split at h
    · cases h
      exact ⟨rfl, hex, rfl, rfl, hst, hbef, (fun h => nomatch hidle h), (fun _ h => nomatch h), hf⟩
    · rename_i hsc
      split at h <;> cases h
      · exact ⟨rfl, hex, rfl, rfl, hst, hbef, hidle, hsend, .inr rfl⟩
      · exact ⟨rfl, hex, rfl, rfl, hst, hbef, (fun h => nomatch hidle h),
          fun _ _ => Bool.eq_false_iff.mpr hsc, hf⟩
  | send o =>
    simp only [listenerStep] at h
    split at h
    · rename_i hec
      rw [Bool.and_eq_true] at hec
      have hopen := hsend o rfl
      rw [WaitPc.closedStop_of_closedEvent hec.2, hec.1] at hopen
      cases hopen
    · cases h
  | unlock =>
    have hw : w.holdsMu = false := Bool.eq_false_iff.mpr fun h => nomatch hex h
    cases h
    exact ⟨by rw [eq_comm, muOf_eq_none]; exact ⟨hw, rfl⟩, fun _ => rfl, rfl, rfl, hst, hbef, fun _ => rfl,
      (fun _ h => nomatch h), hf⟩

theorem step_inv {s s' : State} (hi : Inv s) (h : Step s s') : Inv s' := by
  obtain ⟨p, hp⟩ := h
  cases p <;> simp only [step] at hp <;> split_ifs at hp
  · exact waitStep_inv hi hp
  · exact listenerStep_inv hi hp

theorem Inv.reaches {s₀ s : State} (h₀ : Inv s₀) (h : Reaches s₀ s) : Inv s := by
  induction h with
  | refl => exact h₀
  | tail _ hst ih => exact step_inv ih hst

/-- The listener never moves Wait, nor starts the informer. -/
theorem listenerStep_frame {s s' : State} {l : ListenerPc} (h : listenerStep s l = some s') :
    s'.wait = s.wait ∧ s'.started = s.started := by
  unfold listenerStep at h
  repeat' split at h
  all_goals cases h <;> exact ⟨rfl, rfl⟩

/-! ## 3. The protocol -/

/-- What the protocol guarantees in one state. -/
structure MutexProtocol (s : State) : Prop where
  no_send_on_closed : s.fault ≠ some .sendOnClosedChannel
  no_double_close : s.fault ≠ some .closeOfClosedChannel
  stop_closed_of_event_closed : s.eventClosed = true → s.stopClosed = true
  wait_holds_mu_between_closes : s.stopClosed = true → s.eventClosed = false → s.mu = some .wait
  sender_holds_mu_channels_open : ∀ o, s.listener = .send o →
    s.mu = some .listener ∧ s.stopClosed = false ∧ s.eventClosed = false

theorem Inv.mutexProtocol {s : State} (hi : Inv s) : MutexProtocol s := by
  obtain ⟨hmu, hex, hstop, hev, -, -, -, hsend, hf⟩ := hi
  have hstop_of_event : s.eventClosed = true → s.stopClosed = true := fun he => by
    rw [hev, Bool.and_eq_true] at he
    rw [hstop, he.1, WaitPc.closedStop_of_closedEvent he.2]; rfl
  refine ⟨by rcases hf with hf | hf <;> rw [hf] <;> nofun,
    by rcases hf with hf | hf <;> rw [hf] <;> nofun, hstop_of_event, fun hs he => ?_,
    fun o hl => ?_⟩
  · rw [hstop, Bool.and_eq_true] at hs
    rw [hev, hs.1, Bool.true_and] at he
    rw [hmu, muOf, if_pos (WaitPc.holdsMu_of_closedStop hs.2 he)]
  · have hopen := hsend o hl
    have hw : s.wait.holdsMu = false :=
      Bool.eq_false_iff.mpr fun h => by have := hex h; rw [hl] at this; nomatch this
    refine ⟨by rw [hmu, hl]; exact muOf_of_listener _ hw rfl, hopen,
      Bool.eq_false_iff.mpr fun he => ?_⟩
    have := hstop_of_event he
    rw [hopen] at this
    nomatch this

/-- A step that closes a channel is Wait's, inside its critical section: Wait holds `mu`
before and after it. -/
theorem closes_under_mu {s s' : State} (hi : Inv s) (h : Step s s')
    (hc : s.stopClosed ≠ s'.stopClosed ∨ s.eventClosed ≠ s'.eventClosed) :
    s.mu = some .wait ∧ s'.mu = some .wait := by
  have hi' := step_inv hi h
  rw [hi'.stop, hi'.event] at hc
  rw [hi.mu, hi'.mu]
  obtain ⟨p, hp⟩ := h
  cases p <;> simp only [step] at hp <;> split_ifs at hp
  · rcases s with ⟨w, l, pend, st, mu, sc, ec, f⟩
    obtain ⟨-, -, hstop, hev, hst, hbef, -, -, -⟩ := hi
    dsimp only at hstop hev hst hbef hp hc ⊢
    subst hstop hev
    -- Only `close(stopC)` and `close(eventC)` move a flag; every other step contradicts `hc`.
    cases w with
    | get probe =>
      obtain rfl : st = false := hbef rfl
      cases probe <;> cases hp <;> exact (hc.elim (· rfl) (· rfl)).elim
    | watch =>
      obtain rfl : st = false := hbef rfl
      cases hp; exact (hc.elim (· rfl) (· rfl)).elim
    | sync | unlock _ => cases hp; exact (hc.elim (· rfl) (· rfl)).elim
    | recv =>
      obtain rfl : st = true := hst rfl
      cases l <;> cases hp
      split at hc <;> exact (hc.elim (· rfl) (· rfl)).elim
    | lock res =>
      simp only [waitStep] at hp
      split at hp
      · cases hp; exact (hc.elim (· rfl) (· rfl)).elim
      · cases hp
    | closeStop res | closeEvent res =>
      obtain rfl : st = true := hst rfl
      cases hp
      exact ⟨rfl, rfl⟩
    | returned _ => cases hp
  · obtain ⟨hw, hs⟩ := listenerStep_frame hp
    rw [hi.stop, hi.event, hw, hs] at hc
    exact (hc.elim (· rfl) (· rfl)).elim

/-- **The channels are closed safely.** In every state that any interleaving of Wait with
the listener reaches, from any probe result and any notifications: no send on a closed
`eventC` and no second close has happened, `eventC` is closed only after `stopC`, Wait holds
`mu` from one close to the other, and a handler blocked in `eventC <- obj` holds `mu` with
both channels open. Every step that closes a channel is taken with `mu` held by Wait. -/
theorem mutexProtocol_of_reaches (probe : Option String) (ns : List Notification) (s : State)
    (h : Reaches (initial probe ns) s) :
    MutexProtocol s ∧ ∀ s', Step s s' →
      (s.stopClosed ≠ s'.stopClosed ∨ s.eventClosed ≠ s'.eventClosed) →
      s.mu = some .wait ∧ s'.mu = some .wait :=
  have hi := (initial_inv probe ns).reaches h
  ⟨hi.mutexProtocol, fun _ hst hc => closes_under_mu hi hst hc⟩

/-- A pod the informer reports `Running`. -/
def runningPod : Corev1.Pod := { name := "build-pod", status := { phase := podRunning } }

/-- A run where Wait settles on an added `Running` pod and returns. -/
theorem mutexProtocol_after_return :
    Reaches (initial none [.add runningPod]) ⟨.returned ⟨some runningPod, none⟩, .idle, [], true,
      none, true, true, none⟩ ∧
    MutexProtocol ⟨.returned ⟨some runningPod, none⟩, .idle, [], true, none, true, true, none⟩ :=
  have h : Reaches (initial none [.add runningPod])
      ⟨.returned ⟨some runningPod, none⟩, .idle, [], true, none, true, true, none⟩ :=
    runSchedule_reaches [.wait, .wait, .wait, .listener, .listener, .listener, .wait, .listener,
      .wait, .wait, .wait, .wait] rfl
  ⟨h, (mutexProtocol_of_reaches none [.add runningPod] _ h).1⟩

/-! ## 4. The deadlock -/

/-- Wait in its receive loop, the listener idle with `pend` to deliver, nothing held or
closed. -/
def receiving (pend : List Notification) : State :=
  ⟨.recv, .idle, pend, true, none, false, false, none⟩

theorem initial_receiving (ns : List Notification) :
    runSchedule (initial none ns) [.wait, .wait, .wait] = some (receiving ns) := rfl

/-- A pod notification is delivered: the handler takes `mu` and sends the object, and Wait
receives it and checks it, leaving the handler to unlock. -/
theorem receiving_deliver {n : Notification} (rest : List Notification) (hn : n.obj.asPod? ≠ none)
    (ps : List Party) :
    runSchedule (receiving (n :: rest)) (.listener :: .listener :: .listener :: .wait :: ps) =
      runSchedule ⟨if (checkPodStatus n.obj).settles then .lock (checkPodStatus n.obj) else .recv,
        .unlock, rest, true, some .listener, false, false, none⟩ ps := by
  obtain ⟨p, hp⟩ := Option.ne_none_iff_exists'.mp hn
  simp only [runSchedule, Go.runSchedule_cons, Go.runSchedule_nil, receiving, step, listenerStep,
    waitStep, hp, Option.isSome_none, Bool.false_eq_true, ↓reduceIte, Option.some_bind]

/-- A pod notification that does not settle is received, and everything is as before. -/
theorem receiving_skip {n : Notification} (rest : List Notification) (hp : n.obj.asPod? ≠ none)
    (hs : (checkPodStatus n.obj).settles = false) :
    runSchedule (receiving (n :: rest)) [.listener, .listener, .listener, .wait, .listener] =
      some (receiving rest) := by
  rw [receiving_deliver rest hp]
  simp only [hs, runSchedule, Go.runSchedule_cons, Go.runSchedule_nil, receiving, step,
    listenerStep, Option.isSome_none, Bool.false_eq_true, ↓reduceIte, Option.some_bind]

theorem receiving_reaches {pre : List Notification} (rest : List Notification)
    (hpre : ∀ x ∈ pre, x.obj.asPod? ≠ none ∧ (checkPodStatus x.obj).settles = false) :
    Reaches (receiving (pre ++ rest)) (receiving rest) := by
  induction pre with
  | nil => exact .refl
  | cons n pre ih =>
    have hn := hpre n (List.mem_cons_self n pre)
    exact (runSchedule_reaches _ (receiving_skip _ hn.1 hn.2)).trans
      (ih fun x hx => hpre x (List.mem_cons_of_mem n hx))

/-- Wait settles on `n`; before its deferred `mu.Lock()`, the next notification's handler
takes `mu`, finds `stopC` open, and blocks sending on `eventC`. -/
theorem receiving_deadlock {n m : Notification} (rest : List Notification)
    (hn : n.obj.asPod? ≠ none) (hs : (checkPodStatus n.obj).settles = true)
    (hm : m.obj.asPod? ≠ none) :
    runSchedule (receiving (n :: m :: rest))
      [.listener, .listener, .listener, .wait, .listener, .listener, .listener, .listener] =
      some ⟨.lock (checkPodStatus n.obj), .send m.obj, rest, true, some .listener, false, false,
        none⟩ := by
  obtain ⟨q, hq⟩ := Option.ne_none_iff_exists'.mp hm
  rw [receiving_deliver (m :: rest) hn]
  simp only [hs, hq, runSchedule, Go.runSchedule_cons, Go.runSchedule_nil, step, listenerStep,
    Option.isSome_none, Bool.false_eq_true, ↓reduceIte, Option.some_bind]

/-- **Wait can deadlock** on every notification sequence in which a pod notification follows
the first one that settles: some interleaving leaves Wait waiting for `mu` and the handler
holding `mu` blocked on `eventC`, with neither able to move. -/
theorem deadlock_of_late_notification {n m : Notification} (pre post : List Notification)
    (hpre : ∀ x ∈ pre, x.obj.asPod? ≠ none ∧ (checkPodStatus x.obj).settles = false)
    (hn : n.obj.asPod? ≠ none) (hs : (checkPodStatus n.obj).settles = true)
    (hm : m.obj.asPod? ≠ none) :
    ∃ s, Reaches (initial none (pre ++ n :: m :: post)) s ∧ Stuck s ∧
      s.wait = .lock (checkPodStatus n.obj) ∧ s.listener = .send m.obj ∧
      s.mu = some .listener := by
  refine ⟨_, (runSchedule_reaches _ (initial_receiving _)).trans
    ((receiving_reaches _ hpre).trans (runSchedule_reaches _ (receiving_deadlock post hn hs hm))),
    ?_, rfl, rfl, rfl⟩
  simp [Stuck, step, waitStep, listenerStep]

/-- A `Running` pod is added, and a resync update for it follows. -/
theorem wait_deadlocks_on_late_notification :
    ∃ s, Reaches (initial none [.add runningPod, .update runningPod]) s ∧ Stuck s ∧
      s.wait = .lock ⟨some runningPod, none⟩ ∧ s.listener = .send (.pod runningPod) ∧
      s.mu = some .listener :=
  deadlock_of_late_notification [] [] (by simp) (by simp [Notification.obj, Obj.asPod?])
    (by decide) (by simp [Notification.obj, Obj.asPod?])

/-! ## 5. The tombstone

`DeleteFunc` takes `mu` and, finding `stopC` open, logs `obj.(*corev1.Pod).Name`. The informer
hands it a `DeletedFinalStateUnknown` tombstone when it missed a pod's deletion, and the
assertion then panics, before `checkPodStatus` could reject the object. -/

/-- A handler takes a notification that is not a pod's while `stopC` is open, and panics. -/
theorem receiving_tombstone {n : Notification} (rest : List Notification)
    (hn : n.obj.asPod? = none) :
    runSchedule (receiving (n :: rest)) [.listener, .listener, .listener] =
      some ⟨.recv, .select n, rest, true, some .listener, false, false,
        some .failedTypeAssertion⟩ := by
  simp only [runSchedule, Go.runSchedule_cons, Go.runSchedule_nil, receiving, step, listenerStep,
    hn, Option.isSome_none, Bool.false_eq_true, ↓reduceIte, Option.some_bind]

/-- Wait settles on `n`; before it closes `stopC`, the next notification's handler takes `mu`
and panics on an object that is not a pod. -/
theorem receiving_late_tombstone {n m : Notification} (rest : List Notification)
    (hn : n.obj.asPod? ≠ none) (hs : (checkPodStatus n.obj).settles = true)
    (hm : m.obj.asPod? = none) :
    runSchedule (receiving (n :: m :: rest))
      [.listener, .listener, .listener, .wait, .listener, .listener, .listener, .listener] =
      some ⟨.lock (checkPodStatus n.obj), .select m, rest, true, some .listener, false, false,
        some .failedTypeAssertion⟩ := by
  rw [receiving_deliver (m :: rest) hn]
  simp only [hs, hm, runSchedule, Go.runSchedule_cons, Go.runSchedule_nil, step, listenerStep,
    Option.isSome_none, Bool.false_eq_true, ↓reduceIte, Option.some_bind]

/-- A tombstone before anything settles, or right after the first notification that settles,
makes some interleaving fail the assertion. -/
theorem panics_of_early_tombstone {x : Notification} (pre post : List Notification)
    (hpre : ∀ y ∈ pre, y.obj.asPod? ≠ none ∧ (checkPodStatus y.obj).settles = false)
    (hx : x.obj.asPod? = none ∨
      (x.obj.asPod? ≠ none ∧ (checkPodStatus x.obj).settles = true ∧
        ∃ m post', post = m :: post' ∧ m.obj.asPod? = none)) :
    ∃ s, Reaches (initial none (pre ++ x :: post)) s ∧ s.fault = some .failedTypeAssertion := by
  have hrecv : Reaches (initial none (pre ++ x :: post)) (receiving (x :: post)) :=
    (runSchedule_reaches _ (initial_receiving _)).trans (receiving_reaches _ hpre)
  rcases hx with hx | ⟨hx, hs, m, post', rfl, hm⟩
  · exact ⟨_, hrecv.trans (runSchedule_reaches _ (receiving_tombstone post hx)), rfl⟩
  · exact ⟨_, hrecv.trans (runSchedule_reaches _ (receiving_late_tombstone post' hx hs hm)), rfl⟩

/-- A pod just created, not yet scheduled. -/
def pendingPod : Corev1.Pod := { name := "build-pod", status := { phase := "Pending" } }

/-- `DeleteFunc` receives the informer's `DeletedFinalStateUnknown` before anything settled,
whether first or after the add of a pending pod: its log line's assertion `obj.(*corev1.Pod)`
panics. -/
theorem deleteFunc_panics_on_tombstone :
    (∃ s, Reaches (initial none [.delete .deletedFinalStateUnknown]) s ∧
      s.fault = some .failedTypeAssertion) ∧
    ∃ s, Reaches (initial none [.add pendingPod, .delete .deletedFinalStateUnknown]) s ∧
      s.fault = some .failedTypeAssertion :=
  ⟨panics_of_early_tombstone [] [] nofun (.inl rfl),
    panics_of_early_tombstone [.add pendingPod] [] (by decide) (.inl rfl)⟩

end Pods
end TektonLogs
