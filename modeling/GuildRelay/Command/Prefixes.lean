import GuildRelay.Command.Words
import GuildRelay.Document.Decode
import GuildRelay.Text.Lead
/-!
# Prefixes

A command starts with one of a few prefixes: a mention of the bot, the prefixes of the guild or the
default one. `splitMessage` takes the first prefix that fits off a message and splits the rest into
arguments.
-/

namespace GuildRelay.Command

open Text

/-- The prefixes of one guild, which stand in for the default one there. -/
structure GuildPrefixes where
  guildId : String := ""
  prefixes : List String := []
deriving DecidableEq, Inhabited

/-- Which prefixes start a command. -/
structure Prefixes where
  default : String := "/"
  guilds : List GuildPrefixes := []
deriving DecidableEq, Inhabited

/-- Every prefix of a command in a guild, in the order in which they are tried: the two mentions of
the bot, then those of the guild or the default one. -/
def Prefixes.candidates (p : Prefixes) (botId guildId : String) : List String :=
  ("<@" ++ botId ++ ">") :: ("<@!" ++ botId ++ ">") ::
    match p.guilds.find? fun g => g.guildId == guildId with
    | some g => g.prefixes
    | none => [p.default]

/-- A message without the prefix it started with. -/
structure Stripped where
  /-- Blank if no prefix fits. -/
  lead : String
  rest : String
deriving DecidableEq

/-- Takes the first prefix that is not blank and fits off a message. -/
def strip (content : String) : List String → Stripped
  | [] => ⟨"", content⟩
  | candidate :: others =>
    if candidate.isEmpty then strip content others
    else
      match dropLead? candidate.toList content.toList with
      | some rest => ⟨candidate, String.ofList rest⟩
      | none => strip content others

/-- The arguments in what follows the prefix: its words, or all of it if it cannot be split. -/
def arguments (rest : String) : List String :=
  match words rest with
  | .ok ws => ws
  | .error _ => [rest]

/-- The arguments of a message and the prefix in front of them. -/
def splitMessage (content : String) (candidates : List String) : List String × String :=
  let stripped := strip content candidates
  (arguments stripped.rest, stripped.lead)

end GuildRelay.Command

namespace GuildRelay

open Command

instance : Decode GuildPrefixes where
  decode m d := do
    let f ← d.record? m ["guild_id", "prefixes"]
    let guildId ← f.field m "guild_id" ""
    let prefixes ← f.field m "prefixes" []
    return { guildId, prefixes }

instance : Decode Prefixes where
  decode m d := do
    let f ← d.record? m ["default_prefix", "guilds"]
    let default ← f.field m "default_prefix" "/"
    let guilds ← f.field m "guilds" []
    return { default, guilds }

end GuildRelay
