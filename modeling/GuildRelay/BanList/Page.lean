import GuildRelay.Guild.Basic
import GuildRelay.Store.Error
import GuildRelay.Text.FormEncoded
/-!
# Pages of a ban list

The platform hands out a ban list in pages of limited size. A `BanPageRequest` asks for the entries
behind a user, and a `BanPageReply` has a status and a body. `BanPageReply.bans` says what a reply
means: a list of bans or the reason why there is none.
-/

namespace GuildRelay

/-- Where ban lists are asked for, and as whom. -/
structure BanApi where
  /-- What all paths start with. -/
  base : String
  /-- The secret of the bot. -/
  token : String
deriving DecidableEq, Repr

/-- A request for a page of the ban list of a guild. -/
structure BanPageRequest where
  guildId : String
  /-- The user behind whom the page starts; none for the first page. -/
  after : Option String
deriving DecidableEq, Repr

/-- What comes back for a request. -/
inductive BanPageReply where
  /-- A status with the document of the body, if it is one. -/
  | answered (status : Nat) (body : Option Document)
  /-- No answer. -/
  | unreachable

/-- Why a ban list cannot be had. -/
inductive BanListError where
  /-- The guild or its ban list is not accessible. -/
  | inaccessible
  /-- The request was refused. -/
  | refused (url : String) (status : Nat)
  /-- No answer came. -/
  | unreachable
  /-- The body is no page of bans. -/
  | malformed
deriving DecidableEq, Repr

/-! ## Requests -/

/-- How many entries a page has at most. -/
def banPageLimit : Nat := 1000

namespace BanApi

/-- The address of the ban list of a guild. -/
def url (api : BanApi) (guildId : String) : String :=
  let base := api.base.toList.reverse.dropWhile (· = '/') |>.reverse
  String.ofList base ++ "/guilds/" ++ guildId ++ "/bans"

/-- The header by which the bot is known. -/
def authorization (api : BanApi) : String :=
  "Bot " ++ api.token

end BanApi

/-- What a request asks for, in a query. -/
def BanPageRequest.query (r : BanPageRequest) : String :=
  let after := match r.after with
    | some id => "&after=" ++ FormEncoded.encode id
    | none => ""
  "?limit=" ++ toString banPageLimit ++ after

/-! ## Statuses -/

/-- The phrases of the statuses that a refusal is reported with. A success is no refusal, and those
that are not accessible are reported without their status. -/
def statusPhrases : List (Nat × String) :=
  [(100, "Continue"), (101, "Switching Protocols"), (102, "Processing"), (103, "Early Hints"),
   (300, "Multiple Choices"), (301, "Moved Permanently"), (302, "Found"), (303, "See Other"),
   (304, "Not Modified"), (305, "Use Proxy"), (307, "Temporary Redirect"),
   (308, "Permanent Redirect"),
   (400, "Bad Request"), (401, "Unauthorized"), (402, "Payment Required"),
   (405, "Method Not Allowed"), (406, "Not Acceptable"),
   (407, "Proxy Authentication Required"), (408, "Request Timeout"), (409, "Conflict"),
   (410, "Gone"), (411, "Length Required"), (412, "Precondition Failed"),
   (413, "Payload Too Large"), (414, "URI Too Long"), (415, "Unsupported Media Type"),
   (416, "Range Not Satisfiable"), (417, "Expectation Failed"), (418, "I'm a teapot"),
   (421, "Misdirected Request"), (422, "Unprocessable Entity"), (423, "Locked"),
   (424, "Failed Dependency"), (425, "Too Early"), (426, "Upgrade Required"),
   (428, "Precondition Required"), (429, "Too Many Requests"),
   (431, "Request Header Fields Too Large"), (451, "Unavailable For Legal Reasons"),
   (500, "Internal Server Error"), (501, "Not Implemented"), (502, "Bad Gateway"),
   (503, "Service Unavailable"), (504, "Gateway Timeout"), (505, "HTTP Version Not Supported"),
   (506, "Variant Also Negotiates"), (507, "Insufficient Storage"), (508, "Loop Detected"),
   (510, "Not Extended"), (511, "Network Authentication Required")]

/-- A status with its phrase. -/
def statusText (status : Nat) : String :=
  toString status ++ " " ++ (statusPhrases.lookup status).getD "<unknown status code>"

namespace BanListError

/-- What is reported for an error. -/
def reason : BanListError → String
  | inaccessible => "not accessible"
  | refused url status => "GET " ++ url ++ " returned " ++ statusText status
  | unreachable => "error sending request"
  | malformed => "error decoding response body"

/-- The error as those see it who wanted to cache the ban list. -/
def cacheError : BanListError → CacheError
  | inaccessible => .notFound
  | e => .banSource e.reason

end BanListError

/-! ## Replies -/

/-- A banned user on a page. -/
def bannedUser? (m : Dialect) (d : Document) : Option User := do
  let f ← d.record? m ["id", "username"]
  let id ← f.required m "id"
  let username ← f.field m "username" ""
  return { id, username }

/-- An entry of a page. -/
def banOnPage? (m : Dialect) (d : Document) : Option Ban := do
  let f ← d.record? m ["user", "reason"]
  let user ← (f.lookup "user").bind (bannedUser? m)
  let reason ← f.field m "reason" none
  return { user, reason }

/-- The entries of a page. -/
def banPage? : Document → Option (List Ban)
  | .list entries => entries.mapM (banOnPage? Dialect.json)
  | _ => none

/-- The request succeeded. -/
def isSuccess (status : Nat) : Bool :=
  200 ≤ status && status < 300

/-- The bans of a reply to a request at an address. -/
def BanPageReply.bans (url : String) : BanPageReply → Except BanListError (List Ban)
  | unreachable => .error .unreachable
  | answered status body =>
    if status = 403 ∨ status = 404 then .error .inaccessible
    else if !isSuccess status then .error (.refused url status)
    else
      match body.bind banPage? with
      | some bans => .ok bans
      | none => .error .malformed

end GuildRelay
