import TektonLogs.Pods.Wait

/-!
# A pod as the log reader uses it

`pods.Pod` is a handle: a pod name and a cluster client. The reader asks it for the pod
(`Get`, or `Wait` when following, seen by how it ends: `WaitOutcome`) and, per container, for
a log reader (`Container(c).LogReader(follow, timestamps).Read()`) and for the container's
final status (`Container(c).Status()`). The container log reader lives in `pkg/pods` but not
in the sources modelled here; what it hands back is taken as a parameter, constrained only by
its contract in the spec: two channels, each delivering its values in order and then closing.

`LogStream` carries that contract as a field, so a stream that breaks it cannot be built.
The select loop of `readStepsLogs` sees the two channels' deliveries in one order, any
shuffle of the two (`Go.Interleaving`); `deliveries` is that order.
-/

set_option autoImplicit false

namespace TektonLogs
namespace Pods

open Go

/-- What one iteration of `readStepsLogs`'s `select` receives. -/
inductive Delivery where
  /-- `l, ok := <-containerLogC` with `ok`. -/
  | line (l : String)
  /-- `<-containerLogC` finds the channel closed. -/
  | lineClose
  /-- `e, ok := <-containerLogErrC` with `ok`. -/
  | err (e : String)
  /-- `<-containerLogErrC` finds the channel closed. -/
  | errClose
  deriving DecidableEq, Repr

/-- Modelled from the spec: what `LogReader.Read` yields when it succeeds — each parsed
line on `lines_chan` and each transport error on `errors_chan`, both channels closed at
end of stream; `deliveries` is the order in which the select loop takes them. -/
structure LogStream where
  lines : List String
  errors : List String
  deliveries : List Delivery
  interleaved : Interleaving (lines.map .line ++ [.lineClose]) (errors.map .err ++ [.errClose])
    deliveries

/-- `*pods.Pod`, by what its methods answer. -/
structure Pod where
  /-- `p.Get()`. -/
  get : PodResult
  /-- `p.Wait()`: how it ends, one of the ways a run of `Pods/Wait.lean` stops
  (`terminal_outcome`). -/
  wait : WaitOutcome
  /-- `p.Container(c).LogReader(follow, timestamps).Read()`. -/
  read : String → Bool → Bool → Except String LogStream
  /-- `p.Container(c).Status()`. -/
  status : String → Option String

end Pods
end TektonLogs
