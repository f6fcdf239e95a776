import TektonLogs.Api.Objects

/-!
# The reader, its view of a task run, and the steps of a pod

`log.Reader` is the configuration one task's reader carries. `isFailure`,
`hasTaskRunFailed`, `areRetriesScheduled` and `cast2taskrun` are the reader's questions to a
`TaskRun` snapshot. `step` is what the reader
streams from a pod: a container, the name it is shown under, and its state. `getSteps` and
`getInitSteps` read the pod's containers in declaration order, each with the state of its
status entry; `filterSteps` puts the init steps first when asked for all steps and then
applies the allow-list to the regular steps only.

The Go code builds the state lookup as a `map[string]corev1.ContainerState` filled by a
loop, so a later status entry of the same name overwrites an earlier one, and a missing
name reads the zero `ContainerState`. `statusMap` is that loop, over a function standing
for the map.

`filterStepsSpec` is `filterSteps` as the spec describes it, container by container, with
each state read as the last status entry of the container's name (`lastStatus`).
`filterSteps_eq_spec` shows the code computes it for every pod, flag and allow-list,
duplicate and missing status entries included; the step is `statusMap_eq_lastStatus`, the
map the loop fills answering the last entry of each name.

`filterSteps` takes a pod, not a pointer: the one caller that can hold a nil pod, the log
worker of `readPodLogs`, dereferences it first (`Log/PodLogs.lean`).
-/

set_option autoImplicit false

namespace TektonLogs
namespace TaskReader

open Corev1

/-- `log.Reader`, the fields the modelled functions read. -/
structure Reader where
  run : String
  task : String
  displayName : String
  follow : Bool
  timestamps : Bool
  allSteps : Bool
  steps : List String
  retries : Int
  /-- `r.stream != nil`: an error stream is attached. -/
  hasStream : Bool
  deriving DecidableEq, Repr

/-! ## The task run -/

open V1 in
/-- `isFailure`: the first condition says `False`. -/
def isFailure (tr : TaskRun) : Bool :=
  match tr.status.conditions with
  | c :: _ => c.status == conditionFalse
  | [] => false

open V1 in
/-- `hasTaskRunFailed`, its error text if it has. -/
def hasTaskRunFailed (tr : TaskRun) (taskName : String) : Option String :=
  if isFailure tr then
    tr.status.conditions.head?.map fun c => "task " ++ taskName ++ " has failed: " ++ c.message
  else none

open V1 in
/-- `areRetriesScheduled`. -/
def areRetriesScheduled (tr : TaskRun) (retries : Int) : Bool :=
  if tr.isDone then false else (tr.status.retriesStatus.length : Int) < retries

/-- A watch event's `runtime.Object`: a task run, or an object the unstructured converter
cannot turn into one (with the converter's error). -/
inductive RuntimeObject where
  | taskRun (tr : V1.TaskRun)
  | unconvertible (err : String)
  deriving DecidableEq, Repr

/-- `cast2taskrun`. -/
def cast2taskrun : RuntimeObject → Except String V1.TaskRun
  | .taskRun tr => .ok tr
  | .unconvertible err => .error err

/-! ## Steps -/

/-- `step`. -/
structure Step where
  name : String
  container : String
  state : ContainerState
  deriving DecidableEq, Repr

/-- `step.hasStarted`. -/
def Step.hasStarted (s : Step) : Bool := s.state.waiting.isNone

/-- The `status` map `getSteps`/`getInitSteps` fill from a status list. -/
def statusMap (statuses : List ContainerStatus) : String → ContainerState :=
  statuses.foldl (fun status cs => fun n => if n = cs.name then cs.state else status n)
    fun _ => {}

/-- The step of a container, under its name with the `step-` prefix trimmed. -/
def stepOf (status : String → ContainerState) (c : Container) : Step :=
  ⟨trimPrefix c.name "step-", c.name, status c.name⟩

/-- `getInitSteps`. -/
def getInitSteps (pod : Pod) : List Step :=
  pod.spec.initContainers.map (stepOf (statusMap pod.status.initContainerStatuses))

/-- `getSteps`. -/
def getSteps (pod : Pod) : List Step :=
  pod.spec.containers.map (stepOf (statusMap pod.status.containerStatuses))

/-- `filterSteps`. -/
def filterSteps (pod : Pod) (allSteps : Bool) (stepsGiven : List String) : List Step :=
  let stepsInPod := getSteps pod
  let steps := if allSteps then getInitSteps pod else []
  if stepsGiven.isEmpty then steps ++ stepsInPod
  else steps ++ stepsInPod.filter fun sp => stepsGiven.contains sp.name

/-! ## `filterSteps` against the spec's description -/

/-- The state the spec gives a container: that of the last status entry with its name, or
the zero `ContainerState` when there is none. -/
def lastStatus (statuses : List ContainerStatus) (name : String) : ContainerState :=
  ((statuses.filter fun cs => cs.name = name).getLast?.map (·.state)).getD {}

/-- The step the spec gives a container whose state is read from `statuses`. -/
def specStep (statuses : List ContainerStatus) (c : Container) : Step :=
  ⟨trimPrefix c.name "step-", c.name, lastStatus statuses c.name⟩

/-- `filterSteps` as the spec describes it, in two parts: when `allSteps` is set, a step per
init container in declaration order; then a step per container in declaration order, kept
only if its step name is on the allow-list when that list is not empty. -/
def filterStepsSpec (pod : Pod) (allSteps : Bool) (stepsGiven : List String) : List Step :=
  (if allSteps then pod.spec.initContainers.map (specStep pod.status.initContainerStatuses)
   else []) ++
  (pod.spec.containers.filter fun c =>
    stepsGiven = [] ∨ trimPrefix c.name "step-" ∈ stepsGiven).map
      (specStep pod.status.containerStatuses)

/-- The status loop over a map that already answers `status`: a name with an entry reads its
last entry's state, any other name what `status` answered. -/
theorem statusMap_foldl (statuses : List ContainerStatus) (status : String → ContainerState)
    (name : String) :
    statuses.foldl (fun status cs => fun n => if n = cs.name then cs.state else status n)
        status name =
      ((statuses.filter fun cs => cs.name = name).getLast?.map (·.state)).getD (status name) := by
  induction statuses generalizing status with
  | nil => rfl
  | cons cs rest ih =>
    rw [List.foldl_cons, ih, List.filter_cons]
    by_cases h : cs.name = name
    · simp only [h, decide_True, ↓reduceIte, List.getLast?_cons]
      cases (rest.filter fun cs => cs.name = name).getLast? <;> rfl
    · simp only [h, Ne.symm h, decide_False, Bool.false_eq_true, ↓reduceIte]

/-- Go's map, filled entry by entry, answers the last entry of each name. -/
theorem statusMap_eq_lastStatus (statuses : List ContainerStatus) :
    statusMap statuses = lastStatus statuses :=
  funext fun name => statusMap_foldl statuses _ name

/-- A container with no status entry gets the zero state, which counts as started. -/
theorem specStep_hasStarted {statuses : List ContainerStatus} {c : Container}
    (h : ∀ cs ∈ statuses, cs.name ≠ c.name) : (specStep statuses c).hasStarted = true := by
  have : (statuses.filter fun cs => cs.name = c.name) = [] :=
    List.filter_eq_nil_iff.mpr fun cs hcs => by simpa using h cs hcs
  simp only [specStep, Step.hasStarted, lastStatus, this, List.getLast?_nil, Option.map_none',
    Option.getD_none, Option.isNone_none]

/-- The step the code builds from its status map is the spec's. -/
theorem stepOf_statusMap (statuses : List ContainerStatus) :
    stepOf (statusMap statuses) = specStep statuses := by
  rw [statusMap_eq_lastStatus]; rfl

/-- **`filterSteps` is the spec's step list**, for every pod, flag and allow-list: the init
steps first when asked for, unfiltered, then the regular steps the allow-list keeps, each in
declaration order and with the state of its container's last status entry; and the step
built for a container with no status entry counts as started. -/
theorem filterSteps_eq_spec (pod : Pod) (allSteps : Bool) (stepsGiven : List String) :
    filterSteps pod allSteps stepsGiven = filterStepsSpec pod allSteps stepsGiven ∧
    ∀ (statuses : List ContainerStatus) (c : Container), (∀ cs ∈ statuses, cs.name ≠ c.name) →
      (stepOf (statusMap statuses) c).hasStarted = true := by
  refine ⟨?_, fun statuses c h => stepOf_statusMap statuses ▸ specStep_hasStarted h⟩
  simp only [filterSteps, filterStepsSpec, getSteps, getInitSteps, stepOf_statusMap]
  cases stepsGiven with
  | nil => simp
  | cons s ss => simp [List.filter_map, Function.comp_def, specStep, List.elem_eq_mem]

end TaskReader
end TektonLogs
