import ExtractionServer.Library.Transition
import ExtractionServer.Library.Acceptor
import ExtractionServer.Transport.Channel
import ExtractionServer.Transport.ReceiveWindow
import ExtractionServer.Transport.DuplicateFilter
import ExtractionServer.Transport.Acknowledgement
import ExtractionServer.Transport.ReliableLink
import ExtractionServer.Transport.UnreliableFilter
import ExtractionServer.Transport.AckCoverage
import ExtractionServer.Library.Framing
import ExtractionServer.Ipc.ReceiveLoop
import ExtractionServer.Ipc.StreamDecoding
import ExtractionServer.Ipc.MalformedHeaders
import ExtractionServer.Library.Table
import ExtractionServer.Room.Inventory
import ExtractionServer.Room.Objects
import ExtractionServer.Room.Protocol
import ExtractionServer.Room.GameRoom
import ExtractionServer.Room.ClientPacketHandler
import ExtractionServer.Room.Correspondence
import ExtractionServer.Room.LeaveReports
import ExtractionServer.Library.Occupancy
import ExtractionServer.Room.Effects
import ExtractionServer.Room.Turns
import ExtractionServer.Room.SingleOpener
import ExtractionServer.Library.Versions
import ExtractionServer.Library.WireFormat
import ExtractionServer.Library.Draws
import ExtractionServer.Room.Plans
import ExtractionServer.Room.VersionChecks
import ExtractionServer.Room.LeaveRecords
import ExtractionServer.Room.FinalizeGate
import ExtractionServer.Lobby.Redis
import ExtractionServer.Matchmaking.MatchMaker
import ExtractionServer.Matchmaking.DediManager
import ExtractionServer.Matchmaking.StrandedGroups
import ExtractionServer.Room.DediServerService
import ExtractionServer.Room.SessionRegistry
import ExtractionServer.Room.RegistryRuns
import ExtractionServer.Matchmaking.Capacity
import ExtractionServer.Matchmaking.HttpRequests
import ExtractionServer.Matchmaking.LiveMatches
import ExtractionServer.Library.JavaScript
import ExtractionServer.Library.Ledger
import ExtractionServer.Library.Loops
import ExtractionServer.Library.Metering
import ExtractionServer.Library.SerialNumbers
import ExtractionServer.Library.Expiry
import ExtractionServer.Library.Lease
import ExtractionServer.Library.Transactions
import ExtractionServer.Lobby.Scripts
import ExtractionServer.Matchmaking.MatchQueue
import ExtractionServer.Matchmaking.MatchSearch
import ExtractionServer.Matchmaking.QueueHistory
import ExtractionServer.Matchmaking.MatchCommit
import ExtractionServer.Matchmaking.TicketLife
import ExtractionServer.Matchmaking.QueueFlags
import ExtractionServer.Matchmaking.OwedWrites
import ExtractionServer.Lobby.InventorySnapshot
import ExtractionServer.Lobby.Database
import ExtractionServer.Lobby.Items
import ExtractionServer.Lobby.MatchStart
import ExtractionServer.Lobby.FailedStart
import ExtractionServer.Lobby.Wealth
import ExtractionServer.Lobby.Sessions
import ExtractionServer.Lobby.DBProxyRequest
import ExtractionServer.Room.PlainSteps
import ExtractionServer.Room.NpcAuthority
import ExtractionServer.Room.NpcLeaves
import ExtractionServer.Room.NpcHandover
import ExtractionServer.Room.RecallChecks
import ExtractionServer.Room.RoomLifetime
import ExtractionServer.Room.Shields
import ExtractionServer.Room.Stacks
import ExtractionServer.Room.StackMoves
import ExtractionServer.Room.Magazines
import ExtractionServer.Room.InventoryRuns
import ExtractionServer.Room.DeniedRequests
import ExtractionServer.Room.Kits
import ExtractionServer.Room.KitSteps
import ExtractionServer.Room.Mirror
import ExtractionServer.Room.BareHands
import ExtractionServer.Room.Shots
import ExtractionServer.Room.Armament
import ExtractionServer.Room.Reloads
import ExtractionServer.Room.RaidRoundTrip
import ExtractionServer.Room.ObjectLists
import ExtractionServer.Room.LootDistribution
import ExtractionServer.Room.SessionLinks
import ExtractionServer.Room.Addresses
import ExtractionServer.Room.Echoes
import ExtractionServer.Room.Holdings
import ExtractionServer.Room.Conservation
import ExtractionServer.Room.Homecoming
import ExtractionServer.Room.RaidTransfers
import ExtractionServer.Room.TimerExecuter
import ExtractionServer.Room.DedicateMain
import ExtractionServer.Ipc.IpcManager
import ExtractionServer.Transport.SendBuffers
import ExtractionServer.Library.Provenance
import ExtractionServer.Room.IssuedTokens
import ExtractionServer.Matchmaking.EntryTokens
import ExtractionServer.Matchmaking.TokenProvenance
import ExtractionServer.Matchmaking.TokenUse
