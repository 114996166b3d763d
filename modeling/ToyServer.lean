import ToyServer.Database.LostWakeup
import ToyServer.Database.RunInTransaction
import ToyServer.Database.UserDB
import ToyServer.Dispatcher.SessionRefs
import ToyServer.Dispatcher.SizeClasses
import ToyServer.Dispatcher.WithSession
import ToyServer.Game.BroadPhase
import ToyServer.Game.CellMovement
import ToyServer.Game.Critical
import ToyServer.Game.DotRefresh
import ToyServer.Game.Experience
import ToyServer.Game.GameOver
import ToyServer.Game.Kinematics
import ToyServer.Game.LevelUpChoices
import ToyServer.Game.LevelUpOffers
import ToyServer.Game.Physics
import ToyServer.Game.Pierce
import ToyServer.Game.PlayerRefs
import ToyServer.Game.PositionSync
import ToyServer.Game.RoomModels
import ToyServer.Game.RoomReset
import ToyServer.Game.Ticks
import ToyServer.Game.WeightedChoice
import ToyServer.Memory.PoolModels
import ToyServer.Network.Fips197
import ToyServer.Network.ReceiveLoop
import ToyServer.Network.TokenMaps
import ToyServer.Network.UDPActivity
import ToyServer.Network.UDPSend
import ToyServer.Network.WebSocketSession
import ToyServer.Packet.Release
import ToyServer.Session.NoStranded
import ToyServer.Session.SendOrder
import ToyServer.Session.SingleWriter
import ToyServer.Thread.StrandDiscipline
import ToyServer.Timer.CancelWins
import ToyServer.Timer.Schedule
import ToyServer.Timer.WeakListener
import ToyServer.Utility.FastRandom
