import Mathlib.Data.List.Basic
import TektonLogs.Log.Reader
import TektonLogs.Pods.Container

/-!
# `readStepsLogs`: multiplexing a pod's steps onto two channels

For each step, `readStepsLogs` opens the container's log reader and runs a `select` loop over
its line and error channels until both are nil; a closed line channel produces one `EOFLOG`
record, a closed error channel is merely dropped. Then it asks for the container's status,
and stops at the first step whose status is an error.

The loop's termination and output depend on the order in which the `select` takes the two
channels' deliveries, which the scheduler chooses. `selectLoop_interleaving` settles every
such order at once: whatever the shuffle, the loop ends, sends the lines in order followed by
one `EOFLOG` on `logC`, and the tagged errors in order on `errC`. `readStepsLogs_streams`
lifts this to a whole step list, against the reading the spec gives (`streamedSteps`,
`stepRecords`, `stepErrors`).

`EOFLOG` is an in-band sentinel: a container that prints the line `EOFLOG` produces a record
indistinguishable from the marker (`eofLog_line_doubles_marker`). What does hold is
`eofLog_demarcation`: the marker is each streamed step's last record, it is counted once
more than the step's lines of that text, and splitting at it recovers the lines whenever no
line is the marker's text.
-/

set_option autoImplicit false

namespace TektonLogs
namespace TaskReader

open Go Pods

/-! ## 1. The model -/

/-- The record for line `l` of step `s`. -/
def Reader.logOf (r : Reader) (s : Step) (l : String) : Log := ⟨r.task, r.displayName, s.name, l⟩

/-- `fmt.Errorf("failed to get logs for %s: %s", step.name, e)`. -/
def containerErr (s : Step) (e : String) : String := "failed to get logs for " ++ s.name ++ ": " ++ e

/-- `fmt.Errorf("error in getting logs for step %s: %s", step.name, err)`. -/
def readErr (s : Step) (e : String) : String :=
  "error in getting logs for step " ++ s.name ++ ": " ++ e

/-- The `for containerLogC != nil || containerLogErrC != nil { select ... }` loop of one
step, over the deliveries in the order the `select` takes them; `lineOpen` and `errOpen`
say which channel variable is still non-nil. -/
def selectLoop (r : Reader) (s : Step) : Bool → Bool → List Delivery → Behaviour Send
  | false, false, _ => .done
  | _, _, [] => ⟨[], .blocked⟩
  | lineOpen, errOpen, .line l :: ds =>
    .cons (.log (r.logOf s l)) (selectLoop r s lineOpen errOpen ds)
  | _, errOpen, .lineClose :: ds =>
    .cons (.log (r.logOf s eofLog)) (selectLoop r s false errOpen ds)
  | lineOpen, errOpen, .err e :: ds =>
    .cons (.err (containerErr s e)) (selectLoop r s lineOpen errOpen ds)
  | lineOpen, _, .errClose :: ds => selectLoop r s lineOpen false ds

/-- `readStepsLogs`. -/
def readStepsLogs (r : Reader) (steps : List Step) (pod : Pods.Pod) (follow timestamps : Bool) :
    Behaviour Send :=
  match steps with
  | [] => .done
  | step :: rest =>
    if !follow && !step.hasStarted then readStepsLogs r rest pod follow timestamps
    else
      match pod.read step.container follow timestamps with
      | .error e => .cons (.err (readErr step e)) (readStepsLogs r rest pod follow timestamps)
      | .ok stream =>
        (selectLoop r step true true stream.deliveries).andThen
          (match pod.status step.container with
           | some e => .cons (.err e) .done
           | none => readStepsLogs r rest pod follow timestamps)

/-! ## 2. The spec's reading -/

/-- The records the spec asks for one streamed step: `Log{task, display, step, line}` for
each line, then one whose line is `EOFLOG`. -/
def stepRecords (r : Reader) (s : Step) (lines : List String) : List Log :=
  (lines ++ [eofLog]).map fun l =>
    { task := r.task, taskDisplayName := r.displayName, step := s.name, log := l }

/-- The steps `readStepsLogs` streams, each with its stream: in list order, skipping a step
that has not started when not following and a step whose `Read` fails, up to and including
the first step whose `Status()` fails. -/
def streamedSteps (pod : Pods.Pod) (follow timestamps : Bool) : List Step → List (Step × LogStream)
  | [] => []
  | s :: rest =>
    if !follow && !s.hasStarted then streamedSteps pod follow timestamps rest
    else
      match pod.read s.container follow timestamps with
      | .error _ => streamedSteps pod follow timestamps rest
      | .ok st => (s, st) ::
        if (pod.status s.container).isSome then [] else streamedSteps pod follow timestamps rest

/-- The errors the spec asks for, in order: one per failed `Read`, each container error tagged
with its step's name, and the first failed `Status()`. -/
def stepErrors (pod : Pods.Pod) (follow timestamps : Bool) : List Step → List String
  | [] => []
  | s :: rest =>
    if !follow && !s.hasStarted then stepErrors pod follow timestamps rest
    else
      match pod.read s.container follow timestamps with
      | .error e =>
        ("error in getting logs for step " ++ s.name ++ ": " ++ e) ::
          stepErrors pod follow timestamps rest
      | .ok st => st.errors.map (fun e => "failed to get logs for " ++ s.name ++ ": " ++ e) ++
        match pod.status s.container with
        | some e => [e]
        | none => stepErrors pod follow timestamps rest

/-! ## 3. The select loop, over every shuffle -/

/-- What the line channel has still to deliver: its lines and its close, or nothing once
the loop has set it to nil. -/
def lineSide (lineOpen : Bool) (ls : List String) : List Delivery :=
  if lineOpen then ls.map .line ++ [.lineClose] else []

/-- What the error channel has still to deliver. -/
def errSide (errOpen : Bool) (es : List String) : List Delivery :=
  if errOpen then es.map .err ++ [.errClose] else []

theorem lineSide_eq_nil {lineOpen : Bool} {ls : List String} :
    lineSide lineOpen ls = [] ↔ lineOpen = false := by
  cases lineOpen <;> simp [lineSide]

theorem errSide_eq_nil {errOpen : Bool} {es : List String} :
    errSide errOpen es = [] ↔ errOpen = false := by
  cases errOpen <;> simp [errSide]

/-- The line channel's next delivery: a line, or its close. -/
theorem lineSide_eq_cons {lineOpen : Bool} {ls : List String} {d : Delivery}
    {rest : List Delivery} (h : lineSide lineOpen ls = d :: rest) :
    lineOpen = true ∧ ((∃ l ls', ls = l :: ls' ∧ d = .line l ∧ rest = lineSide true ls') ∨
      (ls = [] ∧ d = .lineClose ∧ rest = lineSide false [])) := by
  cases lineOpen
  · simp [lineSide] at h
  · cases ls <;> simp only [lineSide, ite_true, List.map_nil, List.map_cons, List.nil_append,
      List.cons_append, List.cons.injEq] at h <;> obtain ⟨rfl, rfl⟩ := h <;> simp [lineSide]
    exact ⟨_, _, ⟨rfl, rfl⟩, rfl, rfl⟩

/-- The error channel's next delivery: an error, or its close. -/
theorem errSide_eq_cons {errOpen : Bool} {es : List String} {d : Delivery}
    {rest : List Delivery} (h : errSide errOpen es = d :: rest) :
    errOpen = true ∧ ((∃ e es', es = e :: es' ∧ d = .err e ∧ rest = errSide true es') ∨
      (es = [] ∧ d = .errClose ∧ rest = errSide false [])) := by
  cases errOpen
  · simp [errSide] at h
  · cases es <;> simp only [errSide, ite_true, List.map_nil, List.map_cons, List.nil_append,
      List.cons_append, List.cons.injEq] at h <;> obtain ⟨rfl, rfl⟩ := h <;> simp [errSide]
    exact ⟨_, _, ⟨rfl, rfl⟩, rfl, rfl⟩

/-- **The select loop, over every shuffle.** Whatever order the `select` takes the two
channels' deliveries in, the loop ends, sends the remaining lines and then `EOFLOG` on `logC`
(if the line channel is still open), and the remaining errors, tagged, on `errC`. -/
theorem selectLoop_interleaving (r : Reader) (s : Step) (ds : List Delivery) :
    ∀ {lineOpen errOpen : Bool} {ls es : List String},
      Interleaving (lineSide lineOpen ls) (errSide errOpen es) ds →
      (selectLoop r s lineOpen errOpen ds).ending = .returned ∧
      (selectLoop r s lineOpen errOpen ds).logs =
        (if lineOpen then stepRecords r s ls else []) ∧
      (selectLoop r s lineOpen errOpen ds).errs =
        (if errOpen then es.map (containerErr s) else []) := by
  induction ds with
  | nil =>
    intro lineOpen errOpen ls es h
    obtain ⟨hl, he⟩ := h.nil_inv
    rw [lineSide_eq_nil] at hl
    rw [errSide_eq_nil] at he
    subst hl he
    simp [selectLoop]
  | cons d ds ih =>
    intro lineOpen errOpen ls es h
    rcases h.cons_inv with ⟨_, hA, h'⟩ | ⟨_, hB, h'⟩
    · obtain ⟨rfl, ⟨l, ls', rfl, rfl, rfl⟩ | ⟨rfl, rfl, rfl⟩⟩ := lineSide_eq_cons hA
      · obtain ⟨h1, h2, h3⟩ := ih h'
        simp [selectLoop, stepRecords, Reader.logOf, h1, h2, h3]
      · obtain ⟨h1, h2, h3⟩ := ih h'
        simp [selectLoop, stepRecords, Reader.logOf, h1, h2, h3]
    · obtain ⟨rfl, ⟨e, es', rfl, rfl, rfl⟩ | ⟨rfl, rfl, rfl⟩⟩ := errSide_eq_cons hB
      · obtain ⟨h1, h2, h3⟩ := ih h'
        cases lineOpen <;> simp [selectLoop, h1, h2, h3]
      · obtain ⟨h1, h2, h3⟩ := ih h'
        cases lineOpen <;> simp [selectLoop, h1, h2, h3]

/-- The select loop of a stream `Read` returned: it ends, with the stream's lines and
`EOFLOG` on `logC` and its tagged errors on `errC`. -/
theorem selectLoop_stream (r : Reader) (s : Step) (st : LogStream) :
    (selectLoop r s true true st.deliveries).ending = .returned ∧
    (selectLoop r s true true st.deliveries).logs = stepRecords r s st.lines ∧
    (selectLoop r s true true st.deliveries).errs = st.errors.map (containerErr s) :=
  selectLoop_interleaving r s st.deliveries st.interleaved

/-! ## 4. `readStepsLogs` -/

/-- `readStepsLogs` always returns: each select loop ends once both channels have closed. -/
theorem readStepsLogs_returns (r : Reader) (steps : List Step) (pod : Pods.Pod)
    (follow timestamps : Bool) : (readStepsLogs r steps pod follow timestamps).ending = .returned := by
  induction steps with
  | nil => rfl
  | cons step rest ih =>
    simp only [readStepsLogs]
    split
    · exact ih
    · split
      · exact ih
      · rw [Behaviour.ending_andThen_of_returned (selectLoop_stream r step _).1]
        split
        · rfl
        · exact ih

/-- What `readStepsLogs` sends on its two channels, as the spec reads it. -/
theorem readStepsLogs_sends (r : Reader) (steps : List Step) (pod : Pods.Pod)
    (follow timestamps : Bool) :
    (readStepsLogs r steps pod follow timestamps).logs =
      (streamedSteps pod follow timestamps steps).flatMap (fun p => stepRecords r p.1 p.2.lines) ∧
    (readStepsLogs r steps pod follow timestamps).errs = stepErrors pod follow timestamps steps := by
  induction steps with
  | nil => simp [readStepsLogs, streamedSteps, stepErrors]
  | cons step rest ih =>
    by_cases hskip : (!follow && !step.hasStarted) = true
    · simpa only [readStepsLogs, streamedSteps, stepErrors, hskip, ite_true] using ih
    · simp only [readStepsLogs, streamedSteps, stepErrors, hskip]
      cases hread : pod.read step.container follow timestamps with
      | error e => simp [ih, readErr]
      | ok st =>
        obtain ⟨h1, h2, h3⟩ := selectLoop_stream r step st
        cases pod.status step.container <;>
          simp [Behaviour.logs_andThen_of_returned h1, Behaviour.errs_andThen_of_returned h1, h2,
            h3,
            containerErr, ih]

/-- Splitting record texts at the `EOFLOG` markers, keeping the sequences the markers
close. -/
def splitAtEofLog (texts : List String) : List (List String) := (texts.splitOn eofLog).dropLast

theorem length_splitOn (a : String) (l : List String) : (l.splitOn a).length = l.count a + 1 := by
  induction l with
  | nil => rfl
  | cons x xs ih =>
    simp only [List.splitOn, List.splitOnP_cons, List.count_cons] at ih ⊢
    split <;> simp_all

/-- Blocks each closed by a marker, none holding the marker, split back into the blocks. -/
theorem splitOn_closed_blocks {bs : List (List String)} (h : ∀ b ∈ bs, eofLog ∉ b) :
    (bs.flatMap (· ++ [eofLog])).splitOn eofLog = bs ++ [[]] := by
  induction bs with
  | nil => rfl
  | cons b bs ih =>
    have hb : ∀ x ∈ b, ¬(x == eofLog) = true := fun x hx hxe =>
      h b (List.mem_cons_self b bs) (by rwa [beq_iff_eq.mp hxe] at hx)
    rw [List.flatMap_cons, List.append_assoc, List.singleton_append, List.splitOn,
      List.splitOnP_first _ _ hb eofLog (by simp), ← List.splitOn,
      ih fun b' hb' => h b' (List.mem_cons_of_mem b hb')]
    rfl

theorem count_closed_blocks (bs : List (List String)) :
    (bs.flatMap (· ++ [eofLog])).count eofLog = bs.length + bs.flatten.count eofLog := by
  induction bs with
  | nil => rfl
  | cons b bs ih => simp [List.count_append, ih]; omega

/-- Splitting recovers the blocks exactly when no block holds the marker's text. -/
theorem splitAtEofLog_closed_blocks (bs : List (List String)) :
    splitAtEofLog (bs.flatMap (· ++ [eofLog])) = bs ↔ ∀ b ∈ bs, eofLog ∉ b := by
  refine ⟨fun h b hb => ?_, fun h => by simp [splitAtEofLog, splitOn_closed_blocks h]⟩
  have hlen := congrArg List.length h
  rw [splitAtEofLog, List.length_dropLast, length_splitOn, count_closed_blocks] at hlen
  have hflat : bs.flatten.count eofLog = 0 := by omega
  exact fun he => List.count_eq_zero.mp hflat (List.mem_flatten.mpr ⟨b, hb, he⟩)

theorem stepRecords_texts (r : Reader) (s : Step) (ls : List String) :
    (stepRecords r s ls).map Log.log = ls ++ [eofLog] := by
  simp [stepRecords, Function.comp_def]

/-- **`EOFLOG` demarcation, as it holds.** The texts `readStepsLogs` sends are each streamed
step's lines followed by the marker; the marker appears once per streamed step and once per
streamed line of its text; and splitting at it recovers every streamed step's lines exactly
when no streamed line is the marker's text. -/
theorem eofLog_demarcation (r : Reader) (steps : List Step) (pod : Pods.Pod)
    (follow timestamps : Bool) :
    (readStepsLogs r steps pod follow timestamps).logs.map Log.log =
      (streamedSteps pod follow timestamps steps).flatMap (fun p => p.2.lines ++ [eofLog]) ∧
    ((readStepsLogs r steps pod follow timestamps).logs.map Log.log).count eofLog =
      (streamedSteps pod follow timestamps steps).length +
        ((streamedSteps pod follow timestamps steps).map (·.2.lines)).flatten.count eofLog ∧
    (splitAtEofLog ((readStepsLogs r steps pod follow timestamps).logs.map Log.log) =
        (streamedSteps pod follow timestamps steps).map (·.2.lines) ↔
      ∀ p ∈ streamedSteps pod follow timestamps steps, eofLog ∉ p.2.lines) := by
  have htexts : (readStepsLogs r steps pod follow timestamps).logs.map Log.log =
      ((streamedSteps pod follow timestamps steps).map (·.2.lines)).flatMap (· ++ [eofLog]) := by
    rw [(readStepsLogs_sends r steps pod follow timestamps).1, List.map_flatMap,
      List.flatMap_map]
    simp only [stepRecords_texts]
  rw [htexts, count_closed_blocks, splitAtEofLog_closed_blocks, List.length_map,
    List.forall_mem_map]
  simp only [List.flatMap_map, Prod.forall, and_self]

/-- A step whose container prints the one line `EOFLOG`. -/
def compileStep : Step := ⟨"compile", "step-compile", {}⟩

/-- The stream of a container whose only line is the text `EOFLOG`. -/
def eofLogStream : LogStream :=
  ⟨[eofLog], [], [.line eofLog, .lineClose, .errClose], .left (.left (.right .nil))⟩

/-- A pod whose every container yields `eofLogStream` and ends well. -/
def eofLogPod : Pods.Pod :=
  ⟨⟨none, none⟩, .blocked, fun _ _ _ => .ok eofLogStream, fun _ => none⟩

/-- A reader of task `build`, with default settings. -/
def buildReader : Reader := ⟨"build-run", "build", "Build", false, false, false, [], 0, false⟩

/-- One streamed step, two records carrying `EOFLOG`: the line and the marker. -/
theorem eofLog_line_doubles_marker :
    (readStepsLogs buildReader [compileStep] eofLogPod false false).logs =
      [buildReader.logOf compileStep eofLog, buildReader.logOf compileStep eofLog] := by
  decide

end TaskReader
end TektonLogs
