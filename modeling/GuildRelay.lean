import GuildRelay.BanList.Walk
import GuildRelay.Cache.Mention
import GuildRelay.Main
import GuildRelay.Permission.Resolve
import GuildRelay.Proofs.BanList.Cursor
import GuildRelay.Proofs.BanList.Walk
import GuildRelay.Proofs.Cache.BackfillOutcome
import GuildRelay.Proofs.Cache.BanAccess
import GuildRelay.Proofs.Cache.BanCheck
import GuildRelay.Proofs.Cache.BanEvents
import GuildRelay.Proofs.Cache.BanHistory
import GuildRelay.Proofs.Cache.BanInterruptions
import GuildRelay.Proofs.Cache.BanRace
import GuildRelay.Proofs.Cache.BanRaceEnd
import GuildRelay.Proofs.Cache.BlankFields
import GuildRelay.Proofs.Cache.ChannelCopies
import GuildRelay.Proofs.Cache.ChannelHistory
import GuildRelay.Proofs.Cache.Claims
import GuildRelay.Proofs.Cache.Commute
import GuildRelay.Proofs.Cache.Cuts
import GuildRelay.Proofs.Cache.Errors
import GuildRelay.Proofs.Cache.FailStop
import GuildRelay.Proofs.Cache.GivenLists
import GuildRelay.Proofs.Cache.GuildEnd
import GuildRelay.Proofs.Cache.GuildFields
import GuildRelay.Proofs.Cache.Halfway
import GuildRelay.Proofs.Cache.Handlers
import GuildRelay.Proofs.Cache.History
import GuildRelay.Proofs.Cache.Indices
import GuildRelay.Proofs.Cache.Integrity
import GuildRelay.Proofs.Cache.Key
import GuildRelay.Proofs.Cache.Lookups
import GuildRelay.Proofs.Cache.MemberCopies
import GuildRelay.Proofs.Cache.Mentions
import GuildRelay.Proofs.Cache.Moves
import GuildRelay.Proofs.Cache.Outcome
import GuildRelay.Proofs.Cache.PartialUpdates
import GuildRelay.Proofs.Cache.Pauses
import GuildRelay.Proofs.Cache.Places
import GuildRelay.Proofs.Cache.PresenceReach
import GuildRelay.Proofs.Cache.PresenceUpdates
import GuildRelay.Proofs.Cache.Repeats
import GuildRelay.Proofs.Cache.Retries
import GuildRelay.Proofs.Cache.RolesAndEmojis
import GuildRelay.Proofs.Cache.Scripts
import GuildRelay.Proofs.Cache.Tables
import GuildRelay.Proofs.Cache.TypedHandlers
import GuildRelay.Proofs.Cache.Typing
import GuildRelay.Proofs.Cache.Upstream
import GuildRelay.Proofs.Cache.Users
import GuildRelay.Proofs.Cache.View
import GuildRelay.Proofs.Cache.World
import GuildRelay.Proofs.Command.Grammar
import GuildRelay.Proofs.Command.Quoting
import GuildRelay.Proofs.Document.Json
import GuildRelay.Proofs.Event.Codec
import GuildRelay.Proofs.Guild.Codec
import GuildRelay.Proofs.Guild.Merge
import GuildRelay.Proofs.Permission.Answers
import GuildRelay.Proofs.Permission.Precedence
import GuildRelay.Proofs.Rate.Forgetting
import GuildRelay.Proofs.Rate.Window
import GuildRelay.Proofs.Redis.Expiry
import GuildRelay.Proofs.Redis.Interchange
import GuildRelay.Proofs.Redis.Mirror
import GuildRelay.Proofs.Redis.Server
import GuildRelay.Proofs.Redis.Settled
import GuildRelay.Proofs.Redis.Shelf
import GuildRelay.Proofs.Report.Accounting
import GuildRelay.Proofs.Routing.Declared
import GuildRelay.Proofs.Routing.Subject
import GuildRelay.Proofs.Session.Loop
import GuildRelay.Proofs.Session.Printed
import GuildRelay.Proofs.Store.Cell
import GuildRelay.Proofs.Store.Order
import GuildRelay.Proofs.Store.Range
import GuildRelay.Proofs.Time.Timestamp
import GuildRelay.Redis.Link
import GuildRelay.Redis.Wire
import GuildRelay.Report.Basic
import GuildRelay.Session.Basic
import GuildRelay.Store.Host
import GuildRelay.Tasks.Scope
