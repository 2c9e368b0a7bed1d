import SensorGateway.Gateway.Run
import SensorGateway.Intake
import SensorGateway.CommandLine.Program
import SensorGateway.Main
import SensorGateway.Proofs.Queue
import SensorGateway.Proofs.Datagram
import SensorGateway.Proofs.Intake
import SensorGateway.Proofs.Uplink.Turns
import SensorGateway.Proofs.Gateway.UplinkTurns
import SensorGateway.Proofs.Broker.Acceptance
import SensorGateway.Proofs.Broker.Stream
import SensorGateway.Proofs.Gateway.StaleTimeouts
import SensorGateway.Proofs.Sensor.Acceptance
import SensorGateway.Proofs.Sensor.RoundTrip
import SensorGateway.Proofs.Session.Handshakes
import SensorGateway.Proofs.Session.Counters
import SensorGateway.Proofs.Session.Acts
import SensorGateway.Proofs.Session.Links
import SensorGateway.Proofs.Session.Connections
import SensorGateway.Proofs.Gateway.Holdings
import SensorGateway.Proofs.Gateway.Isolation
import SensorGateway.Proofs.Gateway.OpenLinks
import SensorGateway.Proofs.Session.Topics
import SensorGateway.Proofs.Session.Deliveries
import SensorGateway.Proofs.Session.Grants
import SensorGateway.Proofs.Session.Requests
import SensorGateway.Proofs.Session.Wills
import SensorGateway.Proofs.Session.Silence
import SensorGateway.Proofs.Session.Asking
import SensorGateway.Proofs.Session.Retries
import SensorGateway.Proofs.Gateway.SessionTable
import SensorGateway.Proofs.Gateway.UplinkLinks
import SensorGateway.Proofs.Gateway.Stop
import SensorGateway.Proofs.Session.Calls
import SensorGateway.Proofs.Gateway.Notices
import SensorGateway.Proofs.Gateway.Traffic
import SensorGateway.Proofs.Broker.Encodable
import SensorGateway.Proofs.Topic.Operations
import SensorGateway.Proofs.Config.Validation
import SensorGateway.Proofs.Gateway.BrokerFailures
import SensorGateway.Proofs.Session.ClientIds
import SensorGateway.Proofs.Session.Encodings
import SensorGateway.Proofs.Session.Frames
import SensorGateway.Proofs.Gateway.Encodings
import SensorGateway.Proofs.Session.Stray
import SensorGateway.Proofs.Gateway.Stray
import SensorGateway.Proofs.Session.Teardown
import SensorGateway.Proofs.Gateway.Teardown
import SensorGateway.Proofs.Session.Publications
import SensorGateway.Proofs.Session.Aliases
import SensorGateway.Proofs.Session.Whereabouts
import SensorGateway.Proofs.Gateway.Identities
import SensorGateway.Proofs.Gateway.Replies
import SensorGateway.Proofs.Session.References
import SensorGateway.Proofs.Gateway.Draining
import SensorGateway.Proofs.Gateway.Journal
import SensorGateway.Proofs.Gateway.Relays
import SensorGateway.Proofs.Gateway.Cadence
