import GameServer.Core.Run
import GameServer.Core.Placement
import GameServer.Core.Document
import GameServer.Core.Radix
import GameServer.Core.Periodic
import GameServer.Core.Quota
import GameServer.Core.Range
import GameServer.Core.Ladder
import GameServer.Core.Tally
import GameServer.Core.Keyed
import GameServer.Core.Mirror
import GameServer.Core.Window
import GameServer.Core.Dictionary
import GameServer.Core.Forest
import GameServer.Core.Flags
import GameServer.Core.Serial
import GameServer.Core.Goal
import GameServer.Core.Walk
import GameServer.Core.Overwrite
import GameServer.Core.Wrap
import GameServer.Core.Signed
import GameServer.Core.TwoQuotas
import GameServer.Core.FirstOf
import GameServer.Core.Effects
import GameServer.Core.Credits
import GameServer.Core.NarrowScan
import GameServer.Core.Growth
import GameServer.Core.Pending
import GameServer.Core.Countdown
import GameServer.Core.Decimal
import GameServer.Core.Heap
import GameServer.Core.Pool
import GameServer.Core.Matched
import GameServer.Core.Payout
import GameServer.Card.Model
import GameServer.Card.Position
import GameServer.Card.Request
import GameServer.Card.SlotIndex
import GameServer.Card.Uniqueness
import GameServer.Card.Eviction
import GameServer.Card.Batch
import GameServer.Card.NullObject
import GameServer.Card.BookFlags
import GameServer.Card.Grow
import GameServer.Card.Materials
import GameServer.Card.BookEntries
import GameServer.Card.Care
import GameServer.Card.CareEffects
import GameServer.Card.Lifetime
import GameServer.Card.Reload
import GameServer.Card.Settled
import GameServer.Card.Alike
import GameServer.Card.Handover
import GameServer.Card.Shared
import GameServer.Card.Isolation
import GameServer.Pilot.Model
import GameServer.Pilot.GiveCard
import GameServer.Pilot.FinishGame
import GameServer.Pilot.EquippedCard
import GameServer.Pilot.Agreement
import GameServer.Pilot.Statistics
import GameServer.Pilot.FailedGame
import GameServer.Quest.Model
import GameServer.Quest.Rows
import GameServer.Quest.OncePerPeriod
import GameServer.Quest.Achievements
import GameServer.Quest.ResetPaths
import GameServer.Quest.Progress
import GameServer.Quest.Interleaving
import GameServer.Quest.Verify
import GameServer.Quest.Replies
import GameServer.Summon.Equipment
import GameServer.Summon.Ledger
import GameServer.Summon.Interleaving
import GameServer.Summon.Fly
import GameServer.Summon.Missions
import GameServer.Event.Pass
import GameServer.Event.Schedule
import GameServer.Event.Mastery
import GameServer.Event.Exchange
import GameServer.Event.Ranking
import GameServer.Skill.Model
import GameServer.Skill.Runs
import GameServer.Mail.Model
import GameServer.Mail.Boxes
import GameServer.Items.Model
import GameServer.Items.PresetArray
import GameServer.Items.PresetBits
import GameServer.Items.Presets
import GameServer.Items.Sockets
import GameServer.Items.Counts
import GameServer.Items.Accesses
import GameServer.Items.SocketArray
import GameServer.Items.SocketReload
import GameServer.Items.Stack
import GameServer.Items.IdSet
import GameServer.Chat.Subscriptions
import GameServer.Chat.Delivery
import GameServer.Chat.GuildLog
import GameServer.Network.Rooms
import GameServer.Network.WriteQueue
import GameServer.Network.RoomIds
import GameServer.Network.Texts
import GameServer.Network.Sessions
import GameServer.Bot.Dispatch
import GameServer.Bot.DispatchSearch
import GameServer.Bot.Scans
import GameServer.Bot.Supporters
import GameServer.Stress.Scenarios
import GameServer.Stress.Barrier
import GameServer.Stress.Startup
