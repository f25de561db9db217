import RouteCascade.Cascade.Script
import RouteCascade.Main
import RouteCascade.Proofs.Cascade.AttemptOrder
import RouteCascade.Proofs.Cascade.Cancellation
import RouteCascade.Proofs.Cascade.Handshakes
import RouteCascade.Proofs.Cascade.Teardown
import RouteCascade.StopSignal
import RouteCascade.Tunnel.Script
import RouteCascade.Tunnel.Socks5.Decode
import RouteCascade.Proofs.Cascade.Ownership
import RouteCascade.Proofs.Cascade.Lifecycle
import RouteCascade.Proofs.Http.HeadEnd
import RouteCascade.Proofs.Tunnel.Relaying
import RouteCascade.Proofs.Tunnel.ConnectReply
import RouteCascade.Proofs.Text.Utf8
import RouteCascade.Proofs.Net.HostPort
import RouteCascade.Proofs.Http.WrittenHead
import RouteCascade.Proofs.Tunnel.ConnectRequest
import RouteCascade.Proofs.Cascade.FailureReport
import RouteCascade.Proofs.Tunnel.Acceptance
import RouteCascade.Proofs.Tunnel.Negotiation
import RouteCascade.Proofs.Http.WholeReply
import RouteCascade.Proofs.Request.Pinned
import RouteCascade.Proofs.Tunnel.Calls
import RouteCascade.Proofs.Tunnel.Interleaving
import RouteCascade.Proofs.Cascade.Replay
import RouteCascade.Proofs.Cascade.Handover
import RouteCascade.Proofs.Http.ParsedHead
import RouteCascade.Proofs.Tunnel.HeadBoundary
import RouteCascade.Proofs.Net.AddressText
import RouteCascade.Proofs.Tunnel.Socks5Messages
import RouteCascade.Proofs.Tunnel.Writing
import RouteCascade.Proofs.Tunnel.Discretion
import RouteCascade.Proofs.Request.Routes
import RouteCascade.Proofs.Settings.Runnable
import RouteCascade.Proofs.Cascade.Agreement
import RouteCascade.Proofs.Cascade.Lenience
import RouteCascade.Proofs.Cascade.Ineligible
import RouteCascade.Proofs.Cascade.Branches
import RouteCascade.Proofs.Http.WholeHead
import RouteCascade.Proofs.Tunnel.Gating
import RouteCascade.Proofs.Text.Base64
import RouteCascade.Proofs.Text.Hex
import RouteCascade.Proofs.Cascade.Candidates
import RouteCascade.Proofs.Pin.Coherence
import RouteCascade.Proofs.Tunnel.BasicCredentials
import RouteCascade.Proofs.Tunnel.Reading
import RouteCascade.Proofs.Tunnel.Misspoken
import RouteCascade.Proofs.Cascade.PathFailures
import RouteCascade.Proofs.Yaml.Reading
import RouteCascade.Proofs.Settings.Credentials
import RouteCascade.Proofs.Http.GroupedFields
import RouteCascade.Proofs.Http.PathTarget
import RouteCascade.Proofs.Request.Built
import RouteCascade.Proofs.Net.Authority
import RouteCascade.Proofs.Tunnel.HeadReaders
import RouteCascade.Proofs.Cascade.Standby
import RouteCascade.Proofs.Cli.Conduct
