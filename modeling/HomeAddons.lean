import HomeAddons.Runner.Finality
import HomeAddons.Runner.Execution
import HomeAddons.Runner.RecoveryLock
import HomeAddons.Runner.Revocation
import HomeAddons.Runner.InFlight
import HomeAddons.Runner.Requests
import HomeAddons.Runner.Claiming
import HomeAddons.Renovation.Frames
import HomeAddons.Renovation.Retries
import HomeAddons.Renovation.Refunds
import HomeAddons.Renovation.Queries
import HomeAddons.Renovation.Comparison
import HomeAddons.Renovation.Timeline
import HomeAddons.Renovation.Stages
import HomeAddons.Gateway.Sessions
import HomeAddons.Gateway.FinalResults
import HomeAddons.Gateway.Expiry
import HomeAddons.Gateway.Poller
import HomeAddons.Gateway.Artifacts
import HomeAddons.Gateway.OwnerResults
import HomeAddons.Gateway.Watches
import HomeAddons.Gateway.Authorized
import HomeAddons.Gateway.Files
import HomeAddons.Gateway.Chunks
import HomeAddons.Gateway.WorkExpiry
import HomeAddons.Gateway.MediaCodec
import HomeAddons.Controller.Definite
import HomeAddons.Controller.ChartFiles
import HomeAddons.Controller.PolicySnapshot
import HomeAddons.Controller.SpokenMemo
import HomeAddons.Controller.Confinement
import HomeAddons.Handover.Archival
import HomeAddons.Relay.Connections
import HomeAddons.Desktop.Gaps
import HomeAddons.Desktop.Undisturbed
import HomeAddons.Broker.Receipts
import HomeAddons.Broker.FailClosed
import HomeAddons.Journeys.LatePoints
import HomeAddons.Journeys.Queries
