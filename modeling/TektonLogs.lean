import TektonLogs.Api.Objects
import TektonLogs.Go.Behaviour
import TektonLogs.Go.Schedule
import TektonLogs.Pods.Wait
import TektonLogs.Pods.Protocol
import TektonLogs.Pods.Outcome
import TektonLogs.Pods.Container
import TektonLogs.Log.Reader
import TektonLogs.Log.StepsLogs
import TektonLogs.Log.PodLogs
import TektonLogs.Log.PodNames
import TektonLogs.Log.TaskLogs
import TektonLogs.Log.LiveLogs
import TektonLogs.Log.Simulation
import TektonLogs.Log.TaskLog
