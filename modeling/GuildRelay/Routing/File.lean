import GuildRelay.Document.Json.Reader
import GuildRelay.Document.Toml.Reader
import GuildRelay.Pattern.Reader
import GuildRelay.Routing.Table
/-!
# Routing files

A routing document is written in JSON or in TOML, and the name of its file tells which. Tables of
rules, and what is known about them, are for any engine of regular expressions; the program runs
with `Pattern.engine`.
-/

namespace GuildRelay

/-- The engine that the program runs with. -/
def Pattern.engine : PatternEngine where
  read? text := (Pattern.parse? text).map Pattern.isMatch

/-- Why a routing document cannot be used. -/
inductive RoutingError where
  | json
  | toml
deriving DecidableEq

namespace RoutingTable

/-- The table of a document in JSON. -/
def ofJson (d : Option Document) : Except RoutingError RoutingTable :=
  match d.bind (decode Dialect.json) with
  | some entries => .ok (compile Pattern.engine entries)
  | none => .error .json

/-- The entries of a document in TOML. -/
def tomlEntries? (d : Document) : Option (List RouteEntry) := do
  let f ← d.record? .toml ["routes"]
  f.field Dialect.toml "routes" []

/-- The table of a text in TOML. -/
def ofToml (text : String) : Except RoutingError RoutingTable :=
  match (Document.ofToml? text).bind tomlEntries? with
  | some entries => .ok (compile Pattern.engine entries)
  | none => .error .toml

/-- The last part of the name of a file. -/
def baseName (file : String) : List Char :=
  ((file.toList.reverse.dropWhile (· == '/')).takeWhile (· != '/')).reverse

/-- The name of a file has the ending `.toml` after something else. -/
def isTomlFile (file : String) : Bool :=
  let cs := baseName file
  cs.length > 5 && cs.drop (cs.length - 5) == ".toml".toList

/-- The table of a file with some text. -/
def ofFile (file text : String) : Except RoutingError RoutingTable :=
  if isTomlFile file then ofToml text else ofJson (Document.ofJson? text)

end RoutingTable

end GuildRelay
