import GuildRelay.Text.Decimal
/-!
# Addresses of Redis servers

A server is addressed by a URL, either by host and port with the number of a database, or by the
path of a socket. `isAddress` tells whether a text is such a URL.
-/

namespace GuildRelay.RedisAddress

/-- The parts of a URL that count for an address. -/
structure Parts where
  scheme : String
  /-- What stands between two slashes and the path. -/
  authority : Option (List Char)
  path : List Char

/-- The characters that the name of a scheme may have after the first. -/
def isSchemeChar (c : Char) : Bool :=
  c.isAlphanum || ['+', '-', '.'].contains c

/-- The text without control characters around it and without line breaks in it. -/
def cleaned (s : String) : List Char :=
  let isOuter := fun (c : Char) => c.toNat ≤ 32
  let inner := ((s.toList.dropWhile isOuter).reverse.dropWhile isOuter).reverse
  inner.filter fun c => c ≠ '\t' ∧ c ≠ '\n' ∧ c ≠ '\x0d'

/-- The parts of a URL. -/
def parts? (s : String) : Option Parts :=
  let cs := cleaned s
  let scheme := cs.takeWhile isSchemeChar
  match scheme, cs.drop scheme.length with
  | first :: _, ':' :: rest =>
    if !first.isAlpha then none
    else
      let scheme := String.ofList (scheme.map Char.toLower)
      let rest := rest.takeWhile fun c => c ≠ '?' ∧ c ≠ '#'
      match rest with
      | '/' :: '/' :: rest =>
        let authority := rest.takeWhile (· ≠ '/')
        some ⟨scheme, some authority, rest.drop authority.length⟩
      | _ => some ⟨scheme, none, rest⟩
  | _, _ => none

/-- The characters that the name of a host may not have. -/
def isForbiddenInHost (c : Char) : Bool :=
  ['\x00', ' ', '#', '/', ':', '<', '>', '?', '@', '[', '\\', ']', '^', '|'].contains c

/-- The host and what follows it in an authority. -/
def splitHost (cs : List Char) : List Char × List Char :=
  match cs with
  | '[' :: rest =>
    let inner := rest.takeWhile (· ≠ ']')
    (inner, rest.drop (inner.length + 1))
  | _ =>
    let host := cs.takeWhile (· ≠ ':')
    (host, cs.drop host.length)

/-- What may follow a host: nothing, or a colon with the number of a port or without one. -/
def isPort : List Char → Bool
  | [] => true
  | ':' :: digits => digits.all Text.isDigit && Text.natOf digits < 65536
  | _ => false

/-- The authority names a host. -/
def isHostAndPort (authority : List Char) : Bool :=
  let afterUser := (authority.reverse.takeWhile (· ≠ '@')).reverse
  let (host, port) := splitHost afterUser
  let isNumeric := afterUser.head? = some '['
  !host.isEmpty && (isNumeric || !host.any isForbiddenInHost) && isPort port

/-- The path is empty or has the number of a database. -/
def isDatabase (path : List Char) : Bool :=
  let isSlash := fun (c : Char) => c = '/'
  let inner := ((path.dropWhile isSlash).reverse.dropWhile isSlash).reverse
  let digits := match inner with
    | '-' :: rest => rest
    | '+' :: rest => rest
    | _ => inner
  inner.isEmpty ||
    (!digits.isEmpty && digits.all Text.isDigit && Text.natOf digits < 9223372036854775808)

/-- The path of a socket on this machine. -/
def isSocket (p : Parts) : Bool :=
  let isLocal := match p.authority with
    | none => true
    | some host => host.isEmpty || host = "localhost".toList
  isLocal && p.path.head? = some '/'

/-- A server can be addressed by the text. -/
def isAddress (s : String) : Bool :=
  match parts? s with
  | none => false
  | some p =>
    if p.scheme = "redis" then p.authority.any isHostAndPort && isDatabase p.path
    else if p.scheme = "unix" ∨ p.scheme = "redis+unix" then isSocket p
    else false

end GuildRelay.RedisAddress
