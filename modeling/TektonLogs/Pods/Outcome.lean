import TektonLogs.Pods.Protocol

/-!
# What `Pod.Wait` returns, and when it does not return

`Pods/Protocol.lean` shows that the channels are closed safely and that Wait can deadlock.
This file says what Wait computes. Read sequentially, the loop `for e := range eventC` checks
the objects the handlers send, in the informer's order, and breaks on the first whose check
settles (`firstSettled`); a handler asserts that its object is a pod before it sends it, so
nothing after an object that is not one is received. `waitResult` adds the failed probe.

Over every interleaving of Wait with the listener, and every sequence of notifications:

* `result_eq_waitResult` — once Wait has fixed its result, in its cleanup or returned, that
  result is `waitResult`: every object it received before was a pod that did not settle.
* `returns_waitResult` — conversely, whenever `waitResult` is defined, some interleaving
  returns it, with no panic.
* `stuck_classification` — a state in which neither party can act, without a panic, is one
  of three: Wait has returned; Wait waits for an event, every notification having been passed
  over; or the deadlock, a handler holding `mu` in its send while Wait waits for `mu`.
* `deadlock_iff_late_pod` — and Wait can deadlock exactly when the notification right after
  the first settling one is a pod's.
* `panics_iff_early_tombstone` — a handler fails its assertion on an object that is not a pod
  (the informer's `DeletedFinalStateUnknown`) exactly when one comes before any notification
  settles, or right after the first that does.
* `terminal_outcome` — so every state in which neither party can act, panicked or not, is
  one of the three outcomes a pod handle's `wait` takes in the log reader: returned
  `waitResult`, the assertion's panic, or never returning.
* `wait_run_length_le` — no run goes on for ever: the two parties act at most
  `5 * ns.length + 9` times, so every maximal run ends in one of those states.

The proof is an invariant over the listener's queue (`State.queue`): the object a handler
holds and the notifications still pending. Before Wait settles, the sequence is what it has
passed over followed by that queue. After, the queue is part of what follows the settling
object, and all of it while `stopC` is open, since a handler drops an object only once
`stopC` is closed.
-/

set_option autoImplicit false

namespace TektonLogs
namespace Pods

open Corev1 Go

/-! ## 1. The sequential reading -/

/-- The result Wait's loop breaks on, read off the objects the handlers would send, in the
informer's order: the check of the first object that settles. A handler asserts that its
object is a pod before sending it, so nothing after an object that is not is received. -/
def firstSettled : List Obj → Option PodResult
  | [] => none
  | o :: os =>
    match o.asPod? with
    | none => none
    | some _ => if (checkPodStatus o).settles then some (checkPodStatus o) else firstSettled os

/-- What Wait is to return over the notifications `ns`: the probe's error, or the first
settled result. -/
def waitResult (probe : Option String) (ns : List Notification) : Option PodResult :=
  match probe with
  | some e => some ⟨none, some e⟩
  | none => firstSettled (ns.map Notification.obj)

/-- Objects the loop receives and passes over: pods whose check settles on nothing. -/
def Quiet (os : List Obj) : Prop :=
  ∀ o ∈ os, o.asPod? ≠ none ∧ (checkPodStatus o).settles = false

/-- A pod the loop breaks on, with the result Wait returns. -/
def SettlesOn (o : Obj) (res : PodResult) : Prop :=
  o.asPod? ≠ none ∧ (checkPodStatus o).settles = true ∧ res = checkPodStatus o

theorem firstSettled_quiet_append {pre : List Obj} (hq : Quiet pre) (os : List Obj) :
    firstSettled (pre ++ os) = firstSettled os := by
  induction pre with
  | nil => rfl
  | cons x xs ih =>
    obtain ⟨hx, hs⟩ := hq x (List.mem_cons_self x xs)
    obtain ⟨p, hp⟩ := Option.ne_none_iff_exists'.mp hx
    rw [List.cons_append, firstSettled, hp]
    simp only [hs, Bool.false_eq_true, ↓reduceIte]
    exact ih fun o ho => hq o (List.mem_cons_of_mem x ho)

theorem SettlesOn.firstSettled {o : Obj} {res : PodResult} (h : SettlesOn o res)
    (rest : List Obj) : firstSettled (o :: rest) = some res := by
  obtain ⟨ho, hs, rfl⟩ := h
  obtain ⟨p, hp⟩ := Option.ne_none_iff_exists'.mp ho
  rw [Pods.firstSettled, hp]
  simp only [hs, ↓reduceIte]

/-- The loop breaks on `res` exactly when some object settles on it after objects that
were passed over. -/
theorem firstSettled_eq_some {os : List Obj} {res : PodResult} :
    firstSettled os = some res ↔
      ∃ pre o rest, os = pre ++ o :: rest ∧ Quiet pre ∧ SettlesOn o res := by
  refine ⟨fun h => ?_, fun ⟨pre, o, rest, hos, hq, hso⟩ => ?_⟩
  · induction os with
    | nil => cases h
    | cons o os ih =>
      rw [firstSettled] at h
      split at h
      · cases h
      · rename_i p hp
        have ho : o.asPod? ≠ none := by rw [hp]; nofun
        split at h
        · cases h
          exact ⟨[], o, os, rfl, nofun, ho, ‹_›, rfl⟩
        · obtain ⟨pre, o', rest, rfl, hq, hso⟩ := ih h
          refine ⟨o :: pre, o', rest, rfl, fun x hx => ?_, hso⟩
          rcases List.mem_cons.mp hx with rfl | hx
          · exact ⟨ho, Bool.eq_false_iff.mpr ‹_›⟩
          · exact hq x hx
  · rw [hos, firstSettled_quiet_append hq, hso.firstSettled]

/-- The loop breaks on one object only: the first that settles. -/
theorem SettlesOn.unique {pre pre' rest rest' : List Obj} {o o' : Obj} {res res' : PodResult}
    (hq : Quiet pre) (hs : SettlesOn o res) (hq' : Quiet pre') (hs' : SettlesOn o' res')
    (h : pre ++ o :: rest = pre' ++ o' :: rest') : pre = pre' ∧ o = o' ∧ rest = rest' := by
  induction pre generalizing pre' with
  | nil =>
    cases pre' with
    | nil => simpa using h
    | cons y ys =>
      rw [List.nil_append, List.cons_append] at h
      obtain ⟨rfl, -⟩ := List.cons.inj h
      exact absurd hs.2.1 (by rw [(hq' o (List.mem_cons_self _ _)).2]; nofun)
  | cons x xs ih =>
    cases pre' with
    | nil =>
      rw [List.nil_append, List.cons_append] at h
      obtain ⟨rfl, -⟩ := List.cons.inj h
      exact absurd hs'.2.1 (by rw [(hq x (List.mem_cons_self _ _)).2]; nofun)
    | cons y ys =>
      rw [List.cons_append, List.cons_append] at h
      obtain ⟨rfl, htail⟩ := List.cons.inj h
      obtain ⟨rfl, rfl, rfl⟩ := ih (fun a ha => hq a (List.mem_cons_of_mem _ ha))
        (fun a ha => hq' a (List.mem_cons_of_mem _ ha)) htail
      exact ⟨rfl, rfl, rfl⟩

/-! ## 2. The listener's queue -/

/-- The object a handler holds, taken from the informer and not yet sent. -/
def ListenerPc.inFlight : ListenerPc → List Obj
  | .lock n | .select n => [n.obj]
  | .send o => [o]
  | .idle | .unlock => []

/-- The objects the listener has still to hand over, in the informer's order. -/
def State.queue (s : State) : List Obj := s.listener.inFlight ++ s.pending.map Notification.obj

/-- The result Wait's cleanup carries, once its loop is over. -/
def WaitPc.result? : WaitPc → Option PodResult
  | .lock res | .closeStop res | .closeEvent res | .unlock res | .returned res => some res
  | .get _ | .watch | .sync | .recv => none

theorem WaitPc.closedStop_of_result? {w : WaitPc} (h : w.result? = none) :
    w.closedStop = false := by
  cases w <;> first | rfl | nomatch h

/-- A listener step moves neither Wait nor `stopC`, and keeps the queue in order: it drops an
object only once `stopC` is closed, and it sends only a pod. -/
theorem listenerStep_queue {s s' : State} (h : listenerStep s s.listener = some s') :
    s'.wait = s.wait ∧ s'.stopClosed = s.stopClosed ∧ s'.queue <:+ s.queue ∧
      (s.stopClosed = false → s'.queue = s.queue) ∧
      ∀ o, s'.listener = .send o → s.listener = .send o ∨ o.asPod? ≠ none := by
  rcases s with ⟨w, l, pend, st, mu, sc, ec, f⟩
  cases l with
  | idle =>
    simp only [listenerStep] at h
    split at h
    · cases h
      exact ⟨rfl, rfl, List.suffix_refl _, fun _ => rfl, fun _ h => nomatch h⟩
    · cases h
  | lock n =>
    simp only [listenerStep] at h
    split at h
    · cases h
      exact ⟨rfl, rfl, List.suffix_refl _, fun _ => rfl, fun _ h => nomatch h⟩
    · cases h
  | select n =>
    simp only [listenerStep] at h
    split at h
    · rename_i hsc
      cases h
      exact ⟨rfl, rfl, List.suffix_cons _ _, (fun h => nomatch hsc.symm.trans h),
        fun _ h => nomatch h⟩
    · split at h
      · cases h
        exact ⟨rfl, rfl, List.suffix_refl _, fun _ => rfl, fun _ h => nomatch h⟩
      · rename_i p hp
        cases h
        exact ⟨rfl, rfl, List.suffix_refl _, fun _ => rfl,
          fun o h => .inr (by cases h; rw [hp]; nofun)⟩
  | send o =>
    simp only [listenerStep] at h
    split at h
    · cases h
      exact ⟨rfl, rfl, List.suffix_refl _, fun _ => rfl, fun _ h => .inl h⟩
    · cases h
  | unlock =>
    cases h
    exact ⟨rfl, rfl, List.suffix_refl _, fun _ => rfl, fun _ h => nomatch h⟩

/-! ## 3. The result invariant -/

/-- Wait's loop so far: the objects received were passed over, and the rest of the
informer's sequence `os` is the listener's queue `q`. -/
def Received (os q : List Obj) : Prop := ∃ pre, Quiet pre ∧ os = pre ++ q

/-- Wait's loop broke on `res`: an object settled on it after objects passed over, and the
listener's queue `q` is part of what came after, all of it while `stopC` is open. -/
def BrokeOn (os q : List Obj) (stopClosed : Bool) (res : PodResult) : Prop :=
  ∃ pre o rest, os = pre ++ o :: rest ∧ Quiet pre ∧ SettlesOn o res ∧ q <:+ rest ∧
    (stopClosed = false → q = rest)

/-- What Wait's program counter says of the notifications' objects `os`, the listener's
queue `q` and `stopC`. -/
def ResultPhase (probe : Option String) (os q : List Obj) (stopClosed : Bool) : WaitPc → Prop
  | .get p => p = probe ∧ Received os q
  | .watch | .sync | .recv => probe = none ∧ Received os q
  | .lock res | .closeStop res | .closeEvent res | .unlock res | .returned res =>
    (∃ e, probe = some e ∧ res = ⟨none, some e⟩) ∨ (probe = none ∧ BrokeOn os q stopClosed res)

/-- The result invariant over the probe and the notifications `ns`. -/
structure ResultInv (probe : Option String) (ns : List Notification) (s : State) : Prop where
  sendPod : ∀ o, s.listener = .send o → o.asPod? ≠ none
  phase : ResultPhase probe (ns.map Notification.obj) s.queue s.stopClosed s.wait

theorem initial_resultInv (probe : Option String) (ns : List Notification) :
    ResultInv probe ns (initial probe ns) :=
  ⟨(fun _ h => nomatch h), rfl, [], (fun _ h => nomatch h), rfl⟩

/-- The queue may shrink after Wait has settled, and stays whole while `stopC` is open. -/
theorem ResultPhase.shrink {probe : Option String} {os q q' : List Obj} {stopClosed : Bool}
    {w : WaitPc} (h : ResultPhase probe os q stopClosed w)
    (hopen : w.result? = none → stopClosed = false) (hsuf : q' <:+ q)
    (heq : stopClosed = false → q' = q) : ResultPhase probe os q' stopClosed w := by
  cases w with
  | get _ | watch | sync | recv => rw [heq (hopen rfl)]; exact h
  | lock res | closeStop res | closeEvent res | unlock res | returned res =>
    rcases h with h | ⟨hp, pre, o, rest, hos, hq, hso, hs, hst⟩
    · exact .inl h
    · exact .inr ⟨hp, pre, o, rest, hos, hq, hso, hsuf.trans hs, fun h0 => (heq h0).trans (hst h0)⟩

theorem listenerStep_result {probe : Option String} {ns : List Notification} {s s' : State}
    (hi : Inv s) (hr : ResultInv probe ns s) (h : listenerStep s s.listener = some s') :
    ResultInv probe ns s' := by
  obtain ⟨hw, hsc, hsuf, heq, hsend⟩ := listenerStep_queue h
  have hopen : s.wait.result? = none → s.stopClosed = false := fun hn => by
    rw [hi.stop, WaitPc.closedStop_of_result? hn, Bool.and_false]
  refine ⟨fun o ho => (hsend o ho).elim (hr.sendPod o) id, ?_⟩
  rw [hw, hsc]
  exact hr.phase.shrink hopen hsuf heq

/-- Each of Wait's steps keeps the result invariant. Receiving a pod that settles fixes the
result and leaves the rest of the queue after it; receiving one that does not adds it to what
was passed over. -/
theorem waitStep_result {probe : Option String} {ns : List Notification} {s s' : State}
    (hi : Inv s) (hr : ResultInv probe ns s) (h : waitStep s s.wait = some s') :
    ResultInv probe ns s' := by
  rcases s with ⟨w, l, pend, st, mu, sc, ec, f⟩
  obtain ⟨hsend, hph⟩ := hr
  obtain ⟨-, -, -, hev, hst, -, -, -, -⟩ := hi
  dsimp only at hsend hph hev hst h ⊢
  cases w with
  | get p =>
    obtain ⟨rfl, hrec⟩ := hph
    cases p with
    | some e => cases h; exact ⟨hsend, .inl ⟨e, rfl, rfl⟩⟩
    | none => cases h; exact ⟨hsend, rfl, hrec⟩
  | watch | sync => cases h; exact ⟨hsend, hph⟩
  | recv =>
    obtain ⟨rfl, pre, hq, hos⟩ := hph
    obtain rfl : st = true := hst rfl
    subst hev
    cases l with
    | send o =>
      have hpod := hsend o rfl
      cases h
      refine ⟨(fun _ h => nomatch h), ?_⟩
      cases hs : (checkPodStatus o).settles
      · refine ⟨rfl, pre ++ [o], fun x hx => ?_, by rw [hos]; simp [State.queue,
          ListenerPc.inFlight]⟩
        rcases List.mem_append.mp hx with hx | hx
        · exact hq x hx
        · rw [List.mem_singleton.mp hx]; exact ⟨hpod, hs⟩
      · exact .inr ⟨rfl, pre, o, _, hos, hq, ⟨hpod, hs, rfl⟩, List.suffix_refl _, fun _ => rfl⟩
    | _ => cases h
  | lock res =>
    simp only [waitStep] at h
    split at h
    · cases h; exact ⟨hsend, hph⟩
    · cases h
  | closeStop res =>
    simp only [waitStep] at h
    split at h
    · cases h; exact ⟨hsend, hph⟩
    · cases h
      refine ⟨hsend, ?_⟩
      rcases hph with hph | ⟨hp, pre, o, rest, hos, hq, hso, hs, -⟩
      · exact .inl hph
      · exact .inr ⟨hp, pre, o, rest, hos, hq, hso, hs, nofun⟩
  | closeEvent res =>
    simp only [waitStep] at h
    split at h <;> cases h <;> exact ⟨hsend, hph⟩
  | unlock res => cases h; exact ⟨hsend, hph⟩
  | returned res => cases h

theorem step_result {probe : Option String} {ns : List Notification} {s s' : State}
    (hi : Inv s) (hr : ResultInv probe ns s) (h : Step s s') : ResultInv probe ns s' := by
  obtain ⟨p, hp⟩ := h
  cases p <;> simp only [step] at hp <;> split_ifs at hp
  · exact waitStep_result hi hr hp
  · exact listenerStep_result hi hr hp

theorem Reaches.result {probe : Option String} {ns : List Notification} {s : State}
    (h : Reaches (initial probe ns) s) : Inv s ∧ ResultInv probe ns s := by
  induction h with
  | refl => exact ⟨initial_inv probe ns, initial_resultInv probe ns⟩
  | tail _ hst ih => exact ⟨step_inv ih.1 hst, step_result ih.1 ih.2 hst⟩

/-! ## 4. What Wait returns -/

theorem ResultPhase.waitResult {probe : Option String} {ns : List Notification} {q : List Obj}
    {stopClosed : Bool} {w : WaitPc} {res : PodResult}
    (h : ResultPhase probe (ns.map Notification.obj) q stopClosed w) (hw : w.result? = some res) :
    waitResult probe ns = some res := by
  cases w <;> cases hw <;>
    rcases h with ⟨e, rfl, rfl⟩ | ⟨rfl, pre, o, rest, hos, hq, hso, -, -⟩ <;>
    first | rfl | exact firstSettled_eq_some.mpr ⟨pre, o, rest, hos, hq, hso⟩

/-- **Wait fixes only the sequential result.** In every interleaving, once Wait's loop is over
(in its cleanup, or returned) the result it carries is `waitResult`: the probe's error, or the
check of the first notification that settles, every earlier one having been a pod's that
did not. -/
theorem result_eq_waitResult {probe : Option String} {ns : List Notification} {s : State}
    {res : PodResult} (h : Reaches (initial probe ns) s) (hres : s.wait.result? = some res) :
    waitResult probe ns = some res :=
  (Reaches.result h).2.phase.waitResult hres

/-- Wait, having received an added `Running` pod, returns it. -/
theorem result_of_running_pod : waitResult none [.add runningPod] = some ⟨some runningPod, none⟩ :=
  have h : Reaches (initial none [.add runningPod])
      ⟨.returned ⟨some runningPod, none⟩, .idle, [], true, none, true, true, none⟩ :=
    runSchedule_reaches [.wait, .wait, .wait, .listener, .listener, .listener, .wait, .listener,
      .wait, .wait, .wait, .wait] rfl
  result_eq_waitResult h rfl

/-- From Wait's receive loop, the listener hands over a pod that settles, unlocks, and Wait runs
its cleanup and returns. -/
theorem receiving_return {n : Notification} (rest : List Notification) (hn : n.obj.asPod? ≠ none)
    (hs : (checkPodStatus n.obj).settles = true) :
    runSchedule (receiving (n :: rest))
      [.listener, .listener, .listener, .wait, .listener, .wait, .wait, .wait, .wait] =
      some ⟨.returned (checkPodStatus n.obj), .idle, rest, true, none, true, true, none⟩ := by
  rw [receiving_deliver rest hn]
  simp only [hs, runSchedule, Go.runSchedule_cons, Go.runSchedule_nil, step, listenerStep, waitStep,
    Option.isSome_none, Bool.false_eq_true, ↓reduceIte, Option.some_bind]

/-- **Wait can return the sequential result.** Whenever `waitResult` is defined, some
interleaving of Wait with the listener returns it, with no panic. -/
theorem returns_waitResult {probe : Option String} {ns : List Notification} {res : PodResult}
    (h : waitResult probe ns = some res) :
    ∃ s, Reaches (initial probe ns) s ∧ s.wait = .returned res ∧ s.fault = none := by
  cases probe with
  | some e =>
    cases h
    exact ⟨_, runSchedule_reaches [.wait] rfl, rfl, rfl⟩
  | none =>
    obtain ⟨pre, o, rest, hos, hq, ho, hs, rfl⟩ := firstSettled_eq_some.mp h
    obtain ⟨npre, l₂, rfl, hpre, hl₂⟩ := List.map_eq_append_iff.mp hos
    obtain ⟨n, nrest, rfl, rfl, -⟩ := List.map_eq_cons_iff.mp hl₂
    subst hpre
    have hquiet : ∀ x ∈ npre, x.obj.asPod? ≠ none ∧ (checkPodStatus x.obj).settles = false :=
      fun x hx => hq x.obj (List.mem_map_of_mem _ hx)
    exact ⟨_, (runSchedule_reaches _ (initial_receiving _)).trans
      ((receiving_reaches _ hquiet).trans (runSchedule_reaches _ (receiving_return nrest ho hs))),
      rfl, rfl⟩

/-- An added `Running` pod is returned by some interleaving. -/
theorem returns_running_pod :
    waitResult none [.add runningPod] = some ⟨some runningPod, none⟩ ∧
    ∃ s, Reaches (initial none [.add runningPod]) s ∧
      s.wait = .returned ⟨some runningPod, none⟩ ∧ s.fault = none :=
  have h : waitResult none [.add runningPod] = some ⟨some runningPod, none⟩ := rfl
  ⟨h, returns_waitResult h⟩

/-! ## 5. When Wait does not return -/

/-- A state in which neither party can act: Wait has returned; Wait waits for an event with
the listener idle and nothing pending; or Wait waits for `mu` while the handler holding it
waits to send. -/
theorem stuck_cases {s : State} (hi : Inv s) (hs : Stuck s) :
    (∃ res, s.wait = .returned res) ∨
    (s.wait = .recv ∧ s.listener = .idle ∧ s.pending = []) ∨
    (∃ res o, s.wait = .lock res ∧ s.listener = .send o ∧ s.mu = some .listener) := by
  rcases s with ⟨w, l, pend, st, mu, sc, ec, f⟩
  obtain ⟨hf, hw, hl⟩ := hs
  obtain ⟨hmu, -, -, hev, hst, -, -, -, -⟩ := hi
  dsimp only at hf hw hl hmu hev hst ⊢
  subst hf hmu hev
  simp only [step, Option.isSome_none, Bool.false_eq_true, ↓reduceIte] at hw hl
  cases w with
  | get p => cases p <;> cases hw
  | watch | sync | closeStop _ | closeEvent _ | unlock _ =>
    first | cases hw | (simp only [waitStep] at hw; split at hw <;> cases hw)
  | returned res => exact .inl ⟨res, rfl⟩
  | recv =>
    obtain rfl : st = true := hst rfl
    cases l with
    | send o => cases hw
    | idle =>
      cases pend with
      | nil => exact .inr (.inl ⟨rfl, rfl, rfl⟩)
      | cons n ns => cases hl
    | lock n => simp [listenerStep, muOf] at hl
    | select n =>
      simp only [listenerStep] at hl
      split at hl
      · cases hl
      · split at hl <;> cases hl
    | unlock => cases hl
  | lock res =>
    cases l with
    | send o => exact .inr (.inr ⟨res, o, rfl, rfl, rfl⟩)
    | idle | lock _ => simp [waitStep, muOf] at hw
    | select n =>
      simp only [listenerStep] at hl
      split at hl
      · cases hl
      · split at hl <;> cases hl
    | unlock => cases hl

/-- A state of both invariants in which neither party can act: Wait has returned
`waitResult`; or no notification settled and Wait waits for another with every one passed over;
or Wait has fixed `waitResult` and waits for `mu`, held by a handler blocked sending on
`eventC`. -/
theorem ResultInv.stuck {probe : Option String} {ns : List Notification} {s : State} (hi : Inv s)
    (hr : ResultInv probe ns s) (hs : Stuck s) :
    (∃ res, s.wait = .returned res ∧ waitResult probe ns = some res) ∨
    (s.wait = .recv ∧ s.listener = .idle ∧ s.pending = [] ∧ waitResult probe ns = none) ∨
    (∃ res o, s.wait = .lock res ∧ s.listener = .send o ∧ s.mu = some .listener ∧
      waitResult probe ns = some res) := by
  have hph := hr.phase
  rcases stuck_cases hi hs with ⟨res, hw⟩ | ⟨hw, hl, hp⟩ | ⟨res, o, hw, hl, hmu⟩
  · exact .inl ⟨res, hw, hr.phase.waitResult (by rw [hw]; rfl)⟩
  · rw [hw] at hph
    obtain ⟨rfl, pre, hq, hos⟩ := hph
    refine .inr (.inl ⟨hw, hl, hp, ?_⟩)
    show firstSettled _ = none
    rw [hos, State.queue, hl, hp]
    exact firstSettled_quiet_append hq []
  · exact .inr (.inr ⟨res, o, hw, hl, hmu, hr.phase.waitResult (by rw [hw]; rfl)⟩)

/-- **Where Wait stops.** In every state that any interleaving reaches and in which neither
party can act: Wait has returned `waitResult`; or no notification settled and Wait waits for
another with every one passed over; or Wait has fixed `waitResult` and waits for `mu`, held by
a handler blocked sending on `eventC`. -/
theorem stuck_classification {probe : Option String} {ns : List Notification} {s : State}
    (h : Reaches (initial probe ns) s) (hs : Stuck s) :
    (∃ res, s.wait = .returned res ∧ waitResult probe ns = some res) ∨
    (s.wait = .recv ∧ s.listener = .idle ∧ s.pending = [] ∧ waitResult probe ns = none) ∨
    (∃ res o, s.wait = .lock res ∧ s.listener = .send o ∧ s.mu = some .listener ∧
      waitResult probe ns = some res) := by
  obtain ⟨hi, hr⟩ := Reaches.result h
  exact hr.stuck hi hs

/-- Wait holding the `Running` pod's result, while the handler of its resync is blocked in
its send. -/
def resyncDeadlock : State :=
  ⟨.lock ⟨some runningPod, none⟩, .send (.pod runningPod), [], true, some .listener, false, false,
    none⟩

/-- A `Running` pod and its resync: the stuck state is the deadlock, holding the right result. -/
theorem resyncDeadlock_classified :
    Reaches (initial none [.add runningPod, .update runningPod]) resyncDeadlock ∧
    Stuck resyncDeadlock ∧
    ∃ res o, resyncDeadlock.wait = .lock res ∧ resyncDeadlock.listener = .send o ∧
      resyncDeadlock.mu = some .listener ∧
      waitResult none [.add runningPod, .update runningPod] = some res :=
  have h : Reaches (initial none [.add runningPod, .update runningPod]) resyncDeadlock :=
    runSchedule_reaches [.wait, .wait, .wait, .listener, .listener, .listener, .wait, .listener,
      .listener, .listener, .listener] rfl
  have hs : Stuck resyncDeadlock := by decide
  ⟨h, hs, (stuck_classification h hs).elim (fun ⟨_, hw, _⟩ => nomatch hw)
    fun h' => h'.elim (fun ⟨hw, _⟩ => nomatch hw) id⟩

/-- **Wait deadlocks exactly on a late pod.** Over notifications in which `n` is the first that
settles, some interleaving leaves Wait unable to return exactly when the notification right
after `n` is a pod's: its handler can take `mu` and block on `eventC` before Wait's deferred
`mu.Lock()`. When nothing follows `n`, or what follows is not a pod, every state in which
neither party can act has Wait returned. -/
theorem deadlock_iff_late_pod {n : Notification} (pre post : List Notification)
    (hpre : ∀ x ∈ pre, x.obj.asPod? ≠ none ∧ (checkPodStatus x.obj).settles = false)
    (hn : n.obj.asPod? ≠ none) (hs : (checkPodStatus n.obj).settles = true) :
    (∃ s, Reaches (initial none (pre ++ n :: post)) s ∧ Stuck s ∧ ∀ res, s.wait ≠ .returned res) ↔
      ∃ m post', post = m :: post' ∧ m.obj.asPod? ≠ none := by
  have hq : Quiet (pre.map Notification.obj) := by
    intro o ho
    obtain ⟨x, hx, rfl⟩ := List.mem_map.mp ho
    exact hpre x hx
  have hwr : waitResult none (pre ++ n :: post) = some (checkPodStatus n.obj) :=
    firstSettled_eq_some.mpr
      ⟨pre.map Notification.obj, n.obj, post.map Notification.obj, by simp, hq, hn, hs, rfl⟩
  constructor
  · rintro ⟨s, h, hstuck, hret⟩
    obtain ⟨hi, hr⟩ := Reaches.result h
    rcases hr.stuck hi hstuck with ⟨res, hw, -⟩ | ⟨-, -, -, hnone⟩ | ⟨res, o, hw, hl, -, -⟩
    · exact absurd hw (hret res)
    · rw [hwr] at hnone; cases hnone
    -- The handler sends the object right after the settling one: the queue is whole.
    · have hph := hr.phase
      have hopen : s.stopClosed = false := by rw [hi.stop, hw]; exact Bool.and_false _
      rw [hw] at hph
      rcases hph with ⟨e, he, -⟩ | ⟨-, pre', o', rest, hos, hq', hso', -, hrest⟩
      · cases he
      · have hqueue := hrest hopen
        rw [State.queue, hl] at hqueue
        have hos' : (pre ++ n :: post).map Notification.obj =
            pre.map Notification.obj ++ n.obj :: post.map Notification.obj := by simp
        obtain ⟨-, -, hpost⟩ := SettlesOn.unique hq ⟨hn, hs, rfl⟩ hq' hso' (hos'.symm.trans hos)
        rw [← hqueue] at hpost
        obtain ⟨m, post', rfl, hm, -⟩ := List.map_eq_cons_iff.mp hpost
        exact ⟨m, post', rfl, hm ▸ hr.sendPod o hl⟩
  · rintro ⟨m, post', rfl, hm⟩
    obtain ⟨s, h, hstuck, hw, -⟩ := deadlock_of_late_notification pre post' hpre hn hs hm
    exact ⟨s, h, hstuck, fun res => by rw [hw]; nofun⟩

/-- A `Running` pod, then a resync of it: Wait can deadlock. The pod alone: it cannot. -/
theorem deadlock_iff_running_pod :
    ((∃ s, Reaches (initial none ([] ++ .add runningPod :: [.update runningPod])) s ∧ Stuck s ∧
        ∀ res, s.wait ≠ .returned res) ↔
      ∃ m post', [Notification.update runningPod] = m :: post' ∧ m.obj.asPod? ≠ none) ∧
    ((∃ s, Reaches (initial none ([] ++ .add runningPod :: [])) s ∧ Stuck s ∧
        ∀ res, s.wait ≠ .returned res) ↔
      ∃ m post', ([] : List Notification) = m :: post' ∧ m.obj.asPod? ≠ none) :=
  ⟨deadlock_iff_late_pod [] _ (by simp) (by simp [Notification.obj, Obj.asPod?]) (by decide),
    deadlock_iff_late_pod [] _ (by simp) (by simp [Notification.obj, Obj.asPod?]) (by decide)⟩

/-! ## 6. When Wait panics

`DeleteFunc` takes `mu` and, finding `stopC` open, logs `obj.(*corev1.Pod).Name`. The
informer hands it a `DeletedFinalStateUnknown` tombstone when it missed a deletion, and the
assertion panics. Wait closes `stopC` only in its cleanup, after the object that settled, so the
panic is reachable exactly when a tombstone comes before that object, or right after it: its
handler can take `mu` before Wait's deferred `mu.Lock()`. -/

/-- Wait's actions never fail an assertion: they keep the fault, or close a closed channel. -/
theorem waitStep_fault {s s' : State} (h : waitStep s s.wait = some s') :
    s'.fault = s.fault ∨ s'.fault = some .closeOfClosedChannel := by
  rcases s with ⟨w, l, pend, st, mu, sc, ec, f⟩
  cases w <;> simp only [waitStep] at h <;> (repeat' split at h) <;> cases h <;> simp

/-- The one action that fails the assertion: a handler's `select` finds `stopC` open, with an
object that is not a pod. -/
theorem step_failedTypeAssertion {s s' : State} {p : Party} (hf : s.fault = none)
    (h : step s p = some s') (h' : s'.fault = some .failedTypeAssertion) :
    ∃ n, s.listener = .select n ∧ s.stopClosed = false ∧ n.obj.asPod? = none := by
  rcases s with ⟨w, l, pend, st, mu, sc, ec, f⟩
  dsimp only at hf ⊢
  subst hf
  cases p with
  | wait =>
    rcases waitStep_fault h with h'' | h'' <;> rw [h''] at h' <;> cases h'
  | listener =>
    simp only [step, Option.isSome_none, Bool.false_eq_true, ↓reduceIte] at h
    cases l with
    | select n =>
      simp only [listenerStep] at h
      split at h
      · cases h; cases h'
      · rename_i hsc
        split at h
        · exact ⟨n, rfl, by simpa using hsc, ‹_›⟩
        · cases h; cases h'
    | idle | lock _ | send _ | unlock =>
      simp only [listenerStep] at h; repeat' split at h
      all_goals cases h; all_goals cases h'

/-- An assertion panic that some interleaving reaches is the step of a handler about to panic,
from a state of the result invariant. -/
theorem Reaches.failedTypeAssertion {probe : Option String} {ns : List Notification} {s : State}
    (h : Reaches (initial probe ns) s) (hf : s.fault = some .failedTypeAssertion) :
    ∃ s₁, ResultInv probe ns s₁ ∧
      ∃ n, s₁.listener = .select n ∧ s₁.stopClosed = false ∧ n.obj.asPod? = none := by
  cases h with
  | refl => cases hf
  | tail h₁ h₂ =>
    obtain ⟨p, hp⟩ := h₂
    obtain ⟨hi, hr⟩ := Reaches.result h₁
    refine ⟨_, hr, step_failedTypeAssertion ?_ hp hf⟩
    rcases hi.fault with hf₁ | hf₁
    · exact hf₁
    · cases p <;> simp [step, hf₁] at hp

/-- While `stopC` is open, the listener's queue follows the objects Wait passed over, or those
and the pod it settled on. -/
theorem ResultPhase.open_queue {os q : List Obj} {w : WaitPc} (h : ResultPhase none os q false w) :
    Received os q ∨ ∃ pre o, os = pre ++ o :: q ∧ Quiet pre ∧ o.asPod? ≠ none ∧
      (checkPodStatus o).settles = true := by
  cases w with
  | get _ | watch | sync | recv => exact .inl h.2
  | lock _ | closeStop _ | closeEvent _ | unlock _ | returned _ =>
    rcases h with ⟨_, he, -⟩ | ⟨-, pre, o, rest, hos, hq, ⟨hp, hs, -⟩, -, hrest⟩
    · cases he
    · exact .inr ⟨pre, o, by rw [hrest rfl]; exact hos, hq, hp, hs⟩

/-- Objects passed over, then `o`: the notifications they come from. -/
theorem map_obj_eq_quiet_append {ns : List Notification} {pre rest : List Obj} {o : Obj}
    (h : ns.map Notification.obj = pre ++ o :: rest) (hq : Quiet pre) :
    ∃ pre' x post, ns = pre' ++ x :: post ∧
      (∀ y ∈ pre', y.obj.asPod? ≠ none ∧ (checkPodStatus y.obj).settles = false) ∧
      x.obj = o ∧ post.map Notification.obj = rest := by
  obtain ⟨pre', l₂, rfl, hpre, hl₂⟩ := List.map_eq_append_iff.mp h
  obtain ⟨x, post, rfl, hx, hpost⟩ := List.map_eq_cons_iff.mp hl₂
  exact ⟨pre', x, post, rfl, fun y hy => hq _ (hpre ▸ List.mem_map_of_mem _ hy), hx, hpost⟩

/-- **Wait panics exactly on an early tombstone.** Some interleaving fails `DeleteFunc`'s
assertion exactly when a notification that is not a pod's comes before any settles, or right
after the first that settles. -/
theorem panics_iff_early_tombstone (ns : List Notification) :
    (∃ s, Reaches (initial none ns) s ∧ s.fault = some .failedTypeAssertion) ↔
      ∃ pre x post, ns = pre ++ x :: post ∧
        (∀ y ∈ pre, y.obj.asPod? ≠ none ∧ (checkPodStatus y.obj).settles = false) ∧
        (x.obj.asPod? = none ∨
          (x.obj.asPod? ≠ none ∧ (checkPodStatus x.obj).settles = true ∧
            ∃ m post', post = m :: post' ∧ m.obj.asPod? = none)) := by
  constructor
  · rintro ⟨s, h, hf⟩
    obtain ⟨s₁, hr, n, hl, hst, hn⟩ := Reaches.failedTypeAssertion h hf
    have hph := hr.phase
    rw [hst, State.queue, hl, ListenerPc.inFlight, List.singleton_append] at hph
    rcases hph.open_queue with ⟨pre, hq, hos⟩ | ⟨pre, o, hos, hq, ho, hs⟩
    -- Nothing settled yet: the handler holds the next object.
    · obtain ⟨pre', x, post, rfl, hpre, hx, -⟩ := map_obj_eq_quiet_append hos hq
      exact ⟨pre', x, post, rfl, hpre, .inl (hx ▸ hn)⟩
    -- Wait settled on `x`, and the handler holds the object right after it.
    · obtain ⟨pre', x, post, rfl, hpre, hx, hpost⟩ := map_obj_eq_quiet_append hos hq
      obtain ⟨m, post', rfl, hm, -⟩ := List.map_eq_cons_iff.mp hpost
      exact ⟨pre', x, _, rfl, hpre, .inr ⟨hx ▸ ho, hx ▸ hs, m, post', rfl, hm ▸ hn⟩⟩
  · rintro ⟨pre, x, post, rfl, hpre, hx⟩
    exact panics_of_early_tombstone pre post hpre hx

/-- A `Running` pod is added and the informer's tombstone follows: Wait can panic. -/
theorem late_tombstone_panics :
    ∃ s, Reaches (initial none [.add runningPod, .delete .deletedFinalStateUnknown]) s ∧
      s.fault = some .failedTypeAssertion :=
  (panics_iff_early_tombstone _).mpr ⟨[], .add runningPod, _, rfl, nofun,
    .inr ⟨by simp [Notification.obj, Obj.asPod?], by decide, _, [], rfl, rfl⟩⟩

/-! ## 7. What the log worker sees of Wait

The log worker (`Log/PodLogs.lean`) sees only how `p.Wait()` ends: a pod handle's `wait` is a
`WaitOutcome`. Its three values are exactly the ways a run of Wait and the listener can stop. -/

/-- **How Wait ends.** In every state that any interleaving reaches and in which neither party
can act, panicked or not: Wait has returned `waitResult`; a handler has failed its type
assertion, the one panic a run reaches; or Wait will never return. -/
theorem terminal_outcome {probe : Option String} {ns : List Notification} {s : State}
    (h : Reaches (initial probe ns) s) (hend : ∀ p, step s p = none) :
    (∃ res, s.outcome = .returned res ∧ waitResult probe ns = some res) ∨
    (s.outcome = .panicked ∧ s.fault = some .failedTypeAssertion) ∨
    (s.outcome = .blocked ∧ Stuck s ∧ ∀ res, s.wait ≠ .returned res) := by
  obtain ⟨hi, hr⟩ := Reaches.result h
  rcases hi.fault with hf | hf
  · have hs : Stuck s := ⟨hf, hend .wait, hend .listener⟩
    rcases hr.stuck hi hs with ⟨res, hw, hres⟩ | ⟨hw, -⟩ | ⟨res, o, hw, -⟩
    · exact .inl ⟨res, by simp [State.outcome, hf, hw], hres⟩
    · exact .inr (.inr ⟨by simp [State.outcome, hf, hw], hs, by rw [hw]; nofun⟩)
    · exact .inr (.inr ⟨by simp [State.outcome, hf, hw], hs, by rw [hw]; nofun⟩)
  · exact .inr (.inl ⟨by simp [State.outcome, hf], hf⟩)

/-- The deadlock of a `Running` pod and its resync is an end in which Wait never returns. -/
theorem resyncDeadlock_outcome :
    Reaches (initial none [.add runningPod, .update runningPod]) resyncDeadlock ∧
      (∀ p, step resyncDeadlock p = none) ∧ resyncDeadlock.outcome = .blocked :=
  have h : Reaches (initial none [.add runningPod, .update runningPod]) resyncDeadlock :=
    runSchedule_reaches [.wait, .wait, .wait, .listener, .listener, .listener, .wait, .listener,
      .listener, .listener, .listener] rfl
  have hend : ∀ p, step resyncDeadlock p = none := fun p => by cases p <;> rfl
  ⟨h, hend, (terminal_outcome h hend).elim (fun ⟨_, ho, _⟩ => nomatch ho)
    fun h' => h'.elim (fun ⟨ho, _⟩ => nomatch ho) (·.1)⟩

/-! ## 8. Every run is finite

No interleaving of Wait with the listener goes on for ever. `State.rank` bounds the actions left.
Wait has its own remaining actions. The listener has those of the handler it is in, and five
for each notification still pending. A panic costs one more. Every action lowers the rank: a
receive that does not settle leaves Wait where it was, but moves the listener from its send to
its unlock. So the states of section 5 are where every maximal run ends. -/

/-- Wait's actions left, at most. -/
def WaitPc.rank : WaitPc → Nat
  | .get _ => 8
  | .watch => 7
  | .sync => 6
  | .recv => 5
  | .lock _ => 4
  | .closeStop _ => 3
  | .closeEvent _ => 2
  | .unlock _ => 1
  | .returned _ => 0

/-- The listener's actions left in its current handler invocation. -/
def ListenerPc.rank : ListenerPc → Nat
  | .idle => 0
  | .lock _ => 4
  | .select _ => 3
  | .send _ => 2
  | .unlock => 1

/-- The actions left to the two parties, at most. -/
def State.rank (s : State) : Nat :=
  s.wait.rank + s.listener.rank + 5 * s.pending.length + if s.fault = none then 1 else 0

theorem waitStep_rank {s s' : State} (hf : s.fault = none) (h : waitStep s s.wait = some s') :
    s'.rank < s.rank := by
  rcases s with ⟨w, l, pend, st, mu, sc, ec, f⟩
  dsimp only at hf h
  subst hf
  cases w <;> simp only [waitStep] at h <;> (repeat' split at h) <;> cases h <;>
    simp only [State.rank, WaitPc.rank, ListenerPc.rank, reduceCtorEq, ↓reduceIte] <;> omega

theorem listenerStep_rank {s s' : State} (hf : s.fault = none)
    (h : listenerStep s s.listener = some s') : s'.rank < s.rank := by
  rcases s with ⟨w, l, pend, st, mu, sc, ec, f⟩
  dsimp only at hf h
  subst hf
  cases l <;> simp only [listenerStep] at h <;> (repeat' split at h) <;> cases h <;>
    simp only [State.rank, WaitPc.rank, ListenerPc.rank, List.length_cons, reduceCtorEq,
      ↓reduceIte] <;> omega

theorem step_rank {s s' : State} {p : Party} (h : step s p = some s') : s'.rank < s.rank := by
  cases hf : s.fault with
  | some _ => cases p <;> simp [step, hf] at h
  | none =>
    cases p <;> simp only [step, hf, Option.isSome_none, Bool.false_eq_true, ↓reduceIte] at h
    · exact waitStep_rank hf h
    · exact listenerStep_rank hf h

/-- **Every run of Wait is finite.** Whatever the probe, the notifications and the
interleaving, Wait and the listener together act at most `5 * ns.length + 9` times. -/
theorem wait_run_length_le {probe : Option String} {ns : List Notification} {s : State}
    (ps : List Party) (h : runSchedule (initial probe ns) ps = some s) :
    ps.length ≤ 5 * ns.length + 9 := by
  have := Go.runSchedule_length_add_rank State.rank (fun _ _ => trivial) (fun _ h => step_rank h)
    ps trivial h
  simp only [State.rank, initial, WaitPc.rank, ListenerPc.rank, ↓reduceIte] at this
  omega

/-- The deadlocking run of a `Running` pod and its resync takes eleven of the nineteen actions
its two notifications allow. -/
theorem resyncDeadlock_run_bounded :
    runSchedule (initial none [.add runningPod, .update runningPod])
        [.wait, .wait, .wait, .listener, .listener, .listener, .wait, .listener, .listener,
          .listener, .listener] = some resyncDeadlock ∧ 11 ≤ 5 * 2 + 9 :=
  have h : runSchedule (initial none [.add runningPod, .update runningPod])
      [.wait, .wait, .wait, .listener, .listener, .listener, .wait, .listener, .listener,
        .listener, .listener] = some resyncDeadlock := rfl
  ⟨h, wait_run_length_le _ h⟩

end Pods
end TektonLogs
