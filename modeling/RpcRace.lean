import RpcRace.Library.CString
import RpcRace.Library.Exchange
import RpcRace.Library.Numeral
import RpcRace.Library.Run
import RpcRace.Library.Sending
import RpcRace.RpcConn
import RpcRace.ConnectionPair
import RpcRace.JsonResponse
import RpcRace.RpcProxy
import RpcRace.PairMoves
import RpcRace.Dispatch
import RpcRace.RaceMoves
import RpcRace.ProxyMoves
import RpcRace.SlotMoves
import RpcRace.Requests
import RpcRace.DrainIsolation
import RpcRace.ClientMoves
import RpcRace.RequestBytes
import RpcRace.ConnectionReuse
import RpcRace.Outcomes
import RpcRace.ClientOwner
import RpcRace.ClientStream
import RpcRace.StickyNode
import RpcRace.TimeoutTimer
import RpcRace.Broadcast
import RpcRace.TemplateWinner
import RpcRace.ActiveSlots
import RpcRace.Rotation
import RpcRace.PendingSwaps
import RpcRace.SlotSwaps
import RpcRace.Leftovers
import RpcRace.IbdStatus
import RpcRace.BlockHeight
import RpcRace.Retries
import RpcRace.AllErrors
import RpcRace.EventLoop
import RpcRace.Registration
import RpcRace.HeaderFields
import RpcRace.DeclaredLengths
import RpcRace.ZmqSubscriptions
import RpcRace.ZmqDraining
import RpcRace.HexText
import RpcRace.HttpServer
import RpcRace.NotifyUrl
import RpcRace.Relays
import RpcRace.ConfigLoad
import RpcRace.Progress
import RpcRace.Transparency
import RpcRace.Publishing
import RpcRace.Statistics
import RpcRace.Measurements
import RpcRace.Silence
import RpcRace.NotifyRaces
import RpcRace.Wiring
import RpcRace.NotifyHops
import RpcRace.StatsPage
import RpcRace.Descriptors
import RpcRace.Library.PeriodicTimer
import RpcRace.Heartbeats
