import DiscoveryServer.Interleaving
import DiscoveryServer.Disposal
import DiscoveryServer.CheckedCompare
import DiscoveryServer.Recognition
import DiscoveryServer.Totality
import DiscoveryServer.SameTime
import DiscoveryServer.PrefixValidation
import DiscoveryServer.FailedUpdates
import DiscoveryServer.FirstDiscovery
import DiscoveryServer.LivelinessCounters
import DiscoveryServer.FailedCreations
import DiscoveryServer.ServerLocators
import DiscoveryServer.Removals
import DiscoveryServer.LastCallbacks
import DiscoveryServer.DatabaseNames
import DiscoveryServer.PortSyntax
import DiscoveryServer.TopicProfiles
import DiscoveryServer.TopicReuse
import DiscoveryServer.SnapshotOrder
import DiscoveryServer.Harness
import DiscoveryServer.Expectation
import DiscoveryServer.DatabaseCounts
import DiscoveryServer.GenerateVerdict
import DiscoveryServer.OfflineRuns
import DiscoveryServer.SnapshotHistory
import DiscoveryServer.Convergence
import DiscoveryServer.CommandLine
import DiscoveryServer.LiveRuns
import DiscoveryServer.Library.Exchange
