import SasyServer.Lib.Buckets
import SasyServer.Lib.ChainTable
import SasyServer.Lib.Circle
import SasyServer.Lib.LengthFraming
import SasyServer.Lib.RingBuffer
import SasyServer.Lib.Steps
import SasyServer.Lib.Waiting
import SasyServer.Theorems.Attributes
import SasyServer.Theorems.BagCounts
import SasyServer.Theorems.BagEntries
import SasyServer.Theorems.BagSave
import SasyServer.Theorems.BagSpending
import SasyServer.Theorems.BagStore
import SasyServer.Theorems.BombScore
import SasyServer.Theorems.BossFish
import SasyServer.Theorems.BossGold
import SasyServer.Theorems.BossPool
import SasyServer.Theorems.BossReward
import SasyServer.Theorems.BossTimers
import SasyServer.Theorems.Catches
import SasyServer.Theorems.ChatPackets
import SasyServer.Theorems.ClientNumber
import SasyServer.Theorems.Compositing
import SasyServer.Theorems.Comsume
import SasyServer.Theorems.ConcludeGame
import SasyServer.Theorems.CriticalSections
import SasyServer.Theorems.DailyLimits
import SasyServer.Theorems.Dispatch
import SasyServer.Theorems.EmptyChair
import SasyServer.Theorems.EndTimes
import SasyServer.Theorems.EventListeners
import SasyServer.Theorems.FirePiece
import SasyServer.Theorems.FrameLengths
import SasyServer.Theorems.GatePackets
import SasyServer.Theorems.GatewayAgents
import SasyServer.Theorems.HeaderBuffer
import SasyServer.Theorems.LateDisconnect
import SasyServer.Theorems.LookonLists
import SasyServer.Theorems.NetPayload
import SasyServer.Theorems.OfflineTimer
import SasyServer.Theorems.OnlineTime
import SasyServer.Theorems.OversizeFrames
import SasyServer.Theorems.PackedFrames
import SasyServer.Theorems.PacketFifo
import SasyServer.Theorems.PacketStream
import SasyServer.Theorems.ParsePacket
import SasyServer.Theorems.PathIDs
import SasyServer.Theorems.PendingKept
import SasyServer.Theorems.PendingTable
import SasyServer.Theorems.PracticeScore
import SasyServer.Theorems.RecordCopies
import SasyServer.Theorems.RecordedUsers
import SasyServer.Theorems.RejectedWrites
import SasyServer.Theorems.RelayComplete
import SasyServer.Theorems.RolledBack
import SasyServer.Theorems.RoomCapacity
import SasyServer.Theorems.SceneTimers
import SasyServer.Theorems.SeatMap
import SasyServer.Theorems.SessionIndexes
import SasyServer.Theorems.SessionServers
import SasyServer.Theorems.SessionStamps
import SasyServer.Theorems.Shots
import SasyServer.Theorems.SitDown
import SasyServer.Theorems.StatusWrites
import SasyServer.Theorems.TableGold
import SasyServer.Theorems.TableMirror
import SasyServer.Theorems.TableOwner
import SasyServer.Theorems.TableScore
import SasyServer.Theorems.Timeouts
import SasyServer.Theorems.TimerRuns
import SasyServer.Theorems.TimerViews
import SasyServer.Theorems.UserLogout
import SasyServer.Theorems.UserPresence
import SasyServer.Theorems.Variation
import SasyServer.Theorems.WebsocketClose
import SasyServer.Theorems.WebsocketStream
import SasyServer.Theorems.WebsocketUpgrade
import SasyServer.Lemmas.SeriBytes
import SasyServer.Lemmas.SeriTables
import SasyServer.Theorems.SeriErrors
import SasyServer.Theorems.SeriRoundTrip
import SasyServer.Theorems.SeriSound
import SasyServer.Theorems.HandleRegistry
