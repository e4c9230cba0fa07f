import DeviceHub.Main
import DeviceHub.Proofs.ClientRun.Intact
import DeviceHub.Proofs.ClientRun.Readiness
import DeviceHub.Proofs.ClientRun.Transitions
import DeviceHub.Proofs.ClientTeardown.Order
import DeviceHub.Proofs.ConnectionDump
import DeviceHub.Proofs.ConnectionText.Written
import DeviceHub.Proofs.Consumption.Call
import DeviceHub.Proofs.Consumption.Delivery
import DeviceHub.Proofs.Consumption.StartFilter
import DeviceHub.Proofs.Dialogue.Outcome
import DeviceHub.Proofs.EventTopic
import DeviceHub.Proofs.FanOut.Handles
import DeviceHub.Proofs.IssuedTokens
import DeviceHub.Proofs.JsonInteger
import DeviceHub.Proofs.JsonRoundTrip.Depth
import DeviceHub.Proofs.LinkSetup
import DeviceHub.Proofs.MethodCalls
import DeviceHub.Proofs.MethodEcho
import DeviceHub.Proofs.MethodReplies
import DeviceHub.Proofs.SecretText.Message
import DeviceHub.Proofs.SharedSetup.Outcomes
import DeviceHub.Proofs.TokenGrants.Outcome
import DeviceHub.Proofs.TokenText
import DeviceHub.Proofs.TwinRequests.Teardown
import DeviceHub.Proofs.TwinVersions
import DeviceHub.Proofs.Upkeep.Call
import DeviceHub.Proofs.Upkeep.Stopping
import DeviceHub.Rehearsal.Device
import DeviceHub.Rehearsal.Lifecycle
import DeviceHub.Rehearsal.MqttDevice
import DeviceHub.Rehearsal.Multiplexer
import DeviceHub.Rehearsal.ScriptedPeer
