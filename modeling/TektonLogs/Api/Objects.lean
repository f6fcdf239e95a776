import Mathlib.Data.List.Basic

/-!
# The cluster's objects, as the log reader reads them

The log reader (`pkg/log/task_reader.go`) and the pod watcher (`pkg/pods/pod.go`) read
two kinds of snapshot from the cluster — a `corev1.Pod` and a pipeline `v1.TaskRun` — and
produce one kind of record, the `Log` line. This file is their data model, and nothing
else: every field here is one that a modelled function reads or writes. A field the
code never looks at (labels, images, timestamps' values, the running and terminated
halves of a `ContainerState`) is left out, so that a reader diffing these structures
against the Go types sees exactly what the model depends on.

Kubernetes' enum-like types (`PodPhase`, `PodConditionType`, `ConditionStatus`) are Go
`string` types, and stay strings here: a pod may carry any phase text, and the policy
functions compare against the named constants below, as the Go code does.

Two functions of the pipeline's API package are called but are not part of this
repository (`TaskRun.IsDone`, `TaskRun.HasStarted`); they are modelled from the spec's
data model (`is_done := completed_at set`, `has_started := started_at set`).
-/

set_option autoImplicit false

namespace TektonLogs

/-! ## 1. `corev1` -/

namespace Corev1

/-- `corev1.PodPhase`, a Go `string` type. -/
abbrev PodPhase := String

def podRunning : PodPhase := "Running"
def podSucceeded : PodPhase := "Succeeded"
def podFailed : PodPhase := "Failed"

/-- `corev1.PodConditionType`, a Go `string` type. -/
abbrev PodConditionType := String

def podInitialized : PodConditionType := "Initialized"
def containersReady : PodConditionType := "ContainersReady"

/-- `corev1.ConditionStatus`, a Go `string` type. -/
abbrev ConditionStatus := String

def conditionFalse : ConditionStatus := "False"
def conditionUnknown : ConditionStatus := "Unknown"

/-- `corev1.ContainerStateWaiting`: why a container has not started. -/
structure ContainerStateWaiting where
  reason : String
  message : String
  deriving DecidableEq, Repr

/-- `corev1.ContainerState`. Only the `Waiting` pointer is read (`step.hasStarted`); the
zero value, `{}`, has it `nil`. -/
structure ContainerState where
  waiting : Option ContainerStateWaiting := none
  deriving DecidableEq, Repr

/-- `corev1.ContainerStatus`: one entry of `InitContainerStatuses`/`ContainerStatuses`. -/
structure ContainerStatus where
  name : String
  state : ContainerState
  deriving DecidableEq, Repr

/-- `corev1.Container`: one entry of `Spec.InitContainers`/`Spec.Containers`. -/
structure Container where
  name : String
  deriving DecidableEq, Repr

/-- `corev1.PodCondition`. -/
structure PodCondition where
  type : PodConditionType
  status : ConditionStatus
  message : String
  deriving DecidableEq, Repr

/-- `corev1.PodSpec`, its two container lists in declaration order. -/
structure PodSpec where
  initContainers : List Container := []
  containers : List Container := []
  deriving DecidableEq, Repr

/-- `corev1.PodStatus`. -/
structure PodStatus where
  phase : PodPhase := ""
  conditions : List PodCondition := []
  initContainerStatuses : List ContainerStatus := []
  containerStatuses : List ContainerStatus := []
  deriving DecidableEq, Repr

/-- `corev1.Pod`, with `ObjectMeta` flattened to the two fields read: the name and
whether `DeletionTimestamp` is set. -/
structure Pod where
  name : String
  deletionTimestamp : Option String := none
  spec : PodSpec := {}
  status : PodStatus := {}
  deriving DecidableEq, Repr

end Corev1

/-! ## 2. The pipeline's `v1.TaskRun` -/

namespace V1

/-- `apis.Condition`, the two fields `hasTaskRunFailed` reads. -/
structure Condition where
  status : Corev1.ConditionStatus
  message : String
  deriving DecidableEq, Repr

/-- One entry of `Status.RetriesStatus`. It is a whole `TaskRunStatus` in Go; the reader
reads only its `PodName`. -/
structure RetryStatus where
  podName : String
  deriving DecidableEq, Repr

/-- `v1.TaskRunStatus`, the fields the reader reads. -/
structure TaskRunStatus where
  podName : String := ""
  retriesStatus : List RetryStatus := []
  conditions : List Condition := []
  startTime : Option String := none
  completionTime : Option String := none
  deriving DecidableEq, Repr

/-- `v1.TaskRun`. -/
structure TaskRun where
  name : String
  status : TaskRunStatus := {}
  deriving DecidableEq, Repr

/-- Modelled from the spec: `TaskRun.IsDone` (pipeline API, not in this repository) —
`is_done := completed_at set`. -/
def TaskRun.isDone (tr : TaskRun) : Bool := tr.status.completionTime.isSome

/-- Modelled from the spec: `TaskRun.HasStarted` (pipeline API, not in this repository) —
`has_started := started_at set`. -/
def TaskRun.hasStarted (tr : TaskRun) : Bool := tr.status.startTime.isSome

end V1

/-! ## 3. What the reader produces -/

/-- `log.Log`, the record a reader sends on its log channel. -/
structure Log where
  task : String
  taskDisplayName : String
  step : String
  log : String
  deriving DecidableEq, Repr

/-- The line text that marks the end of one step's stream (`readStepsLogs`). -/
def eofLog : String := "EOFLOG"

/-! ## 4. Go's `strings`

Both functions work on the string's characters, so that they compute by `decide` and `rfl`. -/

/-- `unicode.IsSpace`: the Latin-1 spaces and the Unicode `White_Space` set. -/
def goIsSpace (c : Char) : Bool :=
  c.toNat ∈ [9, 10, 11, 12, 13, 32, 0x85, 0xA0, 0x1680, 0x2028, 0x2029, 0x202F, 0x205F,
    0x3000] || (0x2000 ≤ c.toNat && c.toNat ≤ 0x200A)

/-- `strings.TrimSpace`. -/
def trimSpace (s : String) : String :=
  ⟨((s.data.dropWhile goIsSpace).reverse.dropWhile goIsSpace).reverse⟩

/-- `strings.TrimPrefix`. -/
def trimPrefix (s pre : String) : String :=
  if pre.data.isPrefixOf s.data then ⟨s.data.drop pre.data.length⟩ else s

end TektonLogs
