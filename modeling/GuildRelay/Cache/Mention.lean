import GuildRelay.Cache.Lookup
import GuildRelay.Text.Blank
import GuildRelay.Text.Decimal
import GuildRelay.Text.Lead
/-!
# Mentions

A text mentions a user, a channel or a role by its id between angle brackets, after characters that
say what is mentioned, or by the bare id. Blanks around it do not matter.
-/

namespace GuildRelay

open Text

/-- An id: some digits. -/
def isId (cs : List Char) : Bool :=
  !cs.isEmpty && cs.all isDigit

/-- The id in a mention that starts with `opener`. -/
def bracketedId? (opener cs : List Char) : Option (List Char) :=
  match dropLead? opener cs with
  | some rest =>
    match rest.getLast? with
    | some '>' => if isId rest.dropLast then some rest.dropLast else none
    | _ => none
  | none => none

/-- The id that a text mentions with one of the openers, or the bare id. -/
def mentionedId? (openers : List String) (text : String) : Option String :=
  let cs := trim text.toList
  let id := if isId cs then some cs else openers.findSome? fun o => bracketedId? o.toList cs
  id.map String.ofList

namespace Cache

open GuildRelay.Action

/-- The user that a text mentions. -/
def userFromMention (text : String) : CacheAction User := do
  let id ← ofOption (mentionedId? ["<@", "<@!"] text)
  user id

/-- The channel of a guild that a text mentions, which has to be of the kind asked for. -/
def channelFromMention (guildId text : String) (kind : ChannelKind) : CacheAction Channel := do
  let id ← ofOption (mentionedId? ["<#"] text)
  let c ← channel id
  if c.guildId ≠ guildId then throw .wrongGuild
  if c.kind ≠ kind then throw .wrongType
  return c

/-- The role of a guild that a text mentions. -/
def roleFromMention (guildId text : String) : CacheAction Role := do
  let id ← ofOption (mentionedId? ["<@&"] text)
  role guildId id

end Cache

end GuildRelay
