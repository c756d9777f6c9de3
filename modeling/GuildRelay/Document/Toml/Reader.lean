import GuildRelay.Document.Toml.Value
/-!
# Reading TOML

`Document.ofToml?` reads a TOML text. Tables are put together header by header. A table that a
header or a dotted key only passes through is implicit and may be given its own header later; all
others are given once.
-/

namespace GuildRelay.Toml

/-- How a table came about. -/
inductive Origin where
  /-- By its own header. -/
  | header
  /-- As a part of a header for a table within it. -/
  | implicit
  /-- As a part of a dotted key. -/
  | dotted
deriving DecidableEq

/-- What a name in a table stands for. -/
inductive Node where
  | value (d : Document)
  | table (origin : Origin) (entries : List (String × Node))
  /-- The tables of a list, the last first. -/
  | tables (elements : List (List (String × Node)))

/-- The entries of a table. -/
abbrev Nodes := List (String × Node)

/-- The entries with another node under a name that is there. -/
def Nodes.replace (entries : Nodes) (name : String) (node : Node) : Nodes :=
  entries.map fun e => if e.1 = name then (name, node) else e

/-- Changes the table at the end of a path. Tables that are missing on the way are made; `dotted`
says that the path is a part of a dotted key, which may not enter tables that have a header. -/
def Nodes.change? (dotted : Bool) (f : Origin → Nodes → Option Nodes) :
    (path : List String) → (origin : Origin) → Nodes → Option Nodes
  | [], origin, entries => f origin entries
  | name :: rest, _, entries =>
    match entries.lookup name with
    | none =>
      let origin := if dotted then Origin.dotted else .implicit
      (Nodes.change? dotted f rest origin []).map fun inner =>
        entries ++ [(name, .table origin inner)]
    | some (.table origin inner) =>
      if dotted && origin = .header then none
      else (Nodes.change? dotted f rest origin inner).map fun inner =>
        entries.replace name (.table origin inner)
    | some (.tables (last :: before)) =>
      (Nodes.change? dotted f rest .header last).map fun last =>
        entries.replace name (.tables (last :: before))
    | some (.tables []) => none
    | some (.value _) => none

/-- What was read of a text: finished tables, and the table whose pairs are being read. -/
structure Build where
  root : Nodes := []
  current : Nodes := []
  /-- Where the current table goes, unless it is the root. -/
  place : Option Path := none
  /-- The current table is one of a list. -/
  listed : Bool := false

namespace Build

/-- Puts the current table into its place. -/
def finish? (b : Build) : Option Nodes :=
  match b.place with
  | none => some b.current
  | some place =>
    b.root.change? false (fun _ entries =>
      match entries.lookup place.last, b.listed with
      | none, true => some (entries ++ [(place.last, .tables [b.current])])
      | none, false => some (entries ++ [(place.last, .table .header b.current)])
      | some (.tables elements), true =>
        some (entries.replace place.last (.tables (b.current :: elements)))
      | _, _ => none) place.through .header

/-- The entries of the table at the end of a path, if there is one. -/
def find? : (path : List String) → Nodes → Option Nodes
  | [], entries => some entries
  | name :: rest, entries =>
    match entries.lookup name with
    | some (.table _ inner) => find? rest inner
    | some (.tables (last :: _)) => find? rest last
    | _ => none

/-- Starts the table of a header. A table that was implicit so far keeps its entries. -/
def startTable? (b : Build) (place : Path) : Option Build := do
  let root ← b.finish?
  let parent := (find? place.through root).getD []
  let carried ←
    match parent.lookup place.last with
    | none => some []
    | some (.table .implicit inner) => some inner
    | some _ => none
  let root ← root.change? false
    (fun _ entries => some (entries.filter fun e => e.1 != place.last)) place.through .header
  return { root, current := carried, place := some place }

/-- Starts a further table of a list. -/
def startListed? (b : Build) (place : Path) : Option Build := do
  let root ← b.finish?
  let root ← root.change? false (fun _ entries =>
    match entries.lookup place.last with
    | none => some entries
    | some (.tables _) => some entries
    | some _ => none) place.through .header
  return { root, place := some place, listed := true }

/-- Puts a value under a key of the current table. -/
def insert? (b : Build) (key : Path) (d : Document) : Option Build := do
  let current ← b.current.change? true (fun origin entries =>
    if (origin == .dotted) == key.through.isEmpty then none
    else if (entries.lookup key.last).isSome then none
    else some (entries ++ [(key.last, .value d)])) key.through .header
  return { b with current }

end Build

mutual

/-- The document of a node. -/
def Node.document : Node → Document
  | .value d => d
  | .table _ entries => .table (tableMembers entries)
  | .tables elements => .list (tableList elements).reverse

/-- The members of a table. -/
def tableMembers : List (String × Node) → List (Option String × Document)
  | [] => []
  | (name, node) :: rest => (some name, node.document) :: tableMembers rest

/-- The documents of a list of tables. -/
def tableList : List (List (String × Node)) → List Document
  | [] => []
  | entries :: rest => .table (tableMembers entries) :: tableList rest

end

/-- A value that has to be there. -/
def demand {α : Type} : Option α → Scan α
  | some a => pure a
  | none => failure

/-- A header, with its bracket next. -/
def readHeader (b : Build) : Scan Build := do
  if ← accept "[[" then
    let place ← readKey
    expect "]]"
    lineEnd
    demand (b.startListed? place)
  else
    expect "["
    let place ← readKey
    expect "]"
    lineEnd
    demand (b.startTable? place)

/-- A key with its value. -/
def readPair (b : Build) : Scan Build := do
  let key ← readKey
  expect "="
  skipSpace
  let e ← readValue ((← get).length + 1) 0
  lineEnd
  demand (b.insert? key e.document)

/-- Reads line after line up to the end of the text. -/
def readLines : (fuel : Nat) → Build → Scan Build
  | 0, _ => failure
  | n + 1, b => do
    skipSpace
    match ← peek with
    | none => return b
    | some '[' => readLines n (← readHeader b)
    | some c =>
      if c = '#' || c = '\n' || c = '\r' then
        lineEnd
        readLines n b
      else readLines n (← readPair b)

end GuildRelay.Toml

/-- The document that a TOML text writes. -/
def GuildRelay.Document.ofToml? (text : String) : Option Document := do
  let cs := text.toList
  let cs := if cs.head? == some '\ufeff' then cs.tail else cs
  let (b, _) ← (Toml.readLines (cs.length + 1) {}).run cs
  let entries ← b.finish?
  return .table (Toml.tableMembers entries)
