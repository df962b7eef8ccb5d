import LapinBeam.Proof.Delivery
import LapinBeam.Proof.FrameLimit
import LapinBeam.Lib.TaskSystem
import LapinBeam.Transport.State
import LapinBeam.Transport.Task
import LapinBeam.Transport.Stretch
import LapinBeam.Proof.PeerEntries
import LapinBeam.Proof.ReconnectSupervisor
import LapinBeam.Proof.DesiredPeers
import LapinBeam.Proof.DisconnectEvents
import LapinBeam.Transport.Pair
import LapinBeam.Proof.Introduction
import LapinBeam.Proof.SimultaneousDial
import LapinBeam.Proof.DesiredSet
import LapinBeam.Transport.Inbound
import LapinBeam.Transport.Duplex
import LapinBeam.Proof.HandshakeGate
import LapinBeam.Proof.ErrorReplies
import LapinBeam.Actor.Signals
import LapinBeam.Lib.Asyncio
import LapinBeam.Actor.Runtime
import LapinBeam.Actor.Task
import LapinBeam.Actor.Stretch
import LapinBeam.Actor.Effects
import LapinBeam.Actor.Schedule
import LapinBeam.Proof.Generations
import LapinBeam.Proof.Mail
import LapinBeam.Proof.Names
import LapinBeam.Proof.RestartWindow
import LapinBeam.Proof.Isolation
import LapinBeam.Proof.RestartIntensity
import LapinBeam.Proof.Ending
import LapinBeam.Proof.SignalSoundness
import LapinBeam.Proof.SignalCompleteness
import LapinBeam.Proof.Shutdown
import LapinBeam.Lib.Execution
import LapinBeam.Proof.Teardown
import LapinBeam.Proof.TeardownEnds
import LapinBeam.Actor.Cluster
import LapinBeam.Proof.Monitors
import LapinBeam.Lib.Gossip
import LapinBeam.Lib.GossipViews
import LapinBeam.Directory.Groups
import LapinBeam.Directory.Registry
import LapinBeam.Directory.Node
import LapinBeam.Proof.GroupViews
import LapinBeam.Proof.NameOwners
import LapinBeam.Proof.OwnEntries
import LapinBeam.Proof.LostPeers
import LapinBeam.Proof.Takeover
import LapinBeam.Lib.Lanes
import LapinBeam.Py.Bridge
import LapinBeam.Py.Stretch
import LapinBeam.Proof.MailboxOrder
import LapinBeam.Proof.UnboundedMailboxes
import LapinBeam.Proof.EventTruth
import LapinBeam.Transport.Redial
import LapinBeam.Proof.Redialing
import LapinBeam.Proof.RedialingInvariant
import LapinBeam.Proof.RepeatedDials
import LapinBeam.Proof.Lineage
import LapinBeam.Proof.Incarnations
import LapinBeam.Proof.Orphans
import LapinBeam.Codec.Value
import LapinBeam.Codec.Payload
import LapinBeam.Proof.TypedPayloads
import LapinBeam.Transport.Exchange
import LapinBeam.Proof.FrameStorm
import LapinBeam.Proof.TransportShutdown
import LapinBeam.Proof.ReplyAddress
import LapinBeam.Proof.PoolAccounting
import LapinBeam.Proof.PoolRestart
import LapinBeam.Actor.Ask
import LapinBeam.Proof.AskTraffic
import LapinBeam.Proof.AskIsolation
import LapinBeam.Proof.LateReplies
import LapinBeam.Actor.Dispatch
import LapinBeam.Proof.HandlerDispatch
import LapinBeam.Proof.TypeTags
import LapinBeam.Proof.Backoff
import LapinBeam.Py.Discovery
import LapinBeam.Proof.SeedDiscovery
import LapinBeam.Lib.Chunking
import LapinBeam.Proof.Chunks
import LapinBeam.Proof.HostileFrames
import LapinBeam.Transport.Timed
import LapinBeam.Proof.SilentPeer
import LapinBeam.Py.Connecting
import LapinBeam.Proof.WakeUps
import LapinBeam.Lib.JsonText
import LapinBeam.Lib.Json
import LapinBeam.Py.Convert
import LapinBeam.Proof.Serializers
import LapinBeam.Proof.DeepPayloads
import LapinBeam.Proof.PayloadJourney
import LapinBeam.Proof.NodeIds
import LapinBeam.Proof.PeerSpelling
import LapinBeam.Proof.Residue
import LapinBeam.Actor.Requests
import LapinBeam.Proof.FailedRequests
import LapinBeam.Proof.StoppedChildren
import LapinBeam.Proof.CrashHandling
import LapinBeam.Proof.GroupRestart
