import GuildRelay.Guild.Basic
import GuildRelay.Store.Error
import GuildRelay.Store.Operation
/-!
# Programs of store calls

A `Program` is what a caller does with a store and with the source of ban lists: one call after the
other, each chosen after the replies to those before, and any call may fail. What it means is left
to a `Backend`, which answers the calls; `run_bind` says that programs run one after the other.
-/

namespace GuildRelay

/-- A sequence of calls with keys of type `κ` that ends with a result. -/
inductive Program (κ α : Type) where
  | done (result : α)
  | call (key : κ) (op : Operation) (next : Except CacheError op.Reply → Program κ α)
  | fetchBans (guildId : String) (next : Except CacheError (List Ban) → Program κ α)

namespace Program

variable {κ κ' α β : Type}

/-- One program after another. -/
def andThen : Program κ α → (α → Program κ β) → Program κ β
  | done a, f => f a
  | call key op next, f => call key op fun reply => (next reply).andThen f
  | fetchBans guildId next, f => fetchBans guildId fun reply => (next reply).andThen f

instance : Monad (Program κ) where
  pure := done
  bind := andThen

/-- The program with every key replaced. -/
def mapKeys (rename : κ → κ') : Program κ α → Program κ' α
  | done a => done a
  | call key op next => call (rename key) op fun reply => (next reply).mapKeys rename
  | fetchBans guildId next => fetchBans guildId fun reply => (next reply).mapKeys rename

end Program

/-- Whoever answers the calls of a program, with a state of its own. -/
structure Backend (σ : Type) where
  call : σ → String → (op : Operation) → Except CacheError op.Reply × σ
  fetchBans : σ → String → Except CacheError (List Ban) × σ

namespace Program

variable {α β σ : Type}

/-- The result of a program with a backend, and the state that the backend ends in. -/
def run (backend : Backend σ) : Program String α → σ → α × σ
  | done a, s => (a, s)
  | call key op next, s =>
    let (reply, s) := backend.call s key op
    (next reply).run backend s
  | fetchBans guildId next, s =>
    let (reply, s) := backend.fetchBans s guildId
    (next reply).run backend s

theorem run_andThen (backend : Backend σ) (p : Program String α) (f : α → Program String β)
    (s : σ) :
    (p.andThen f).run backend s =
      let (a, s) := p.run backend s
      (f a).run backend s := by
  induction p generalizing s with
  | done a => rfl
  | call key op next ih => exact ih _ _
  | fetchBans guildId next ih => exact ih _ _

end Program

/-! ## Programs that may fail -/

/-- A program that ends with a result or an error. -/
abbrev Action (κ α : Type) := ExceptT CacheError (Program κ) α

namespace Action

variable {κ κ' α σ : Type}

/-- Asks one key for an answer. -/
def ask (key : κ) (op : Operation) : Action κ op.Reply :=
  ExceptT.mk (Program.call key op .done)

/-- Asks for the ban list of a guild. -/
def askBans (guildId : String) : Action κ (List Ban) :=
  ExceptT.mk (Program.fetchBans guildId .done)

/-- A missing record becomes `none`; other errors stay. -/
def found (a : Action κ α) : Action κ (Option α) :=
  ExceptT.mk (a.run.andThen fun
    | .ok x => .done (.ok (some x))
    | .error .notFound => .done (.ok none)
    | .error e => .done (.error e))

/-- A result that has to be there. -/
def ofOption : Option α → Action κ α
  | some a => pure a
  | none => throw .notFound

/-- The action with every key replaced. -/
def mapKeys (rename : κ → κ') (a : Action κ α) : Action κ' α :=
  ExceptT.mk (a.run.mapKeys rename)

/-- The outcome of an action with a backend, and the state that the backend ends in. -/
def runOn (backend : Backend σ) (a : Action String α) (s : σ) : Except CacheError α × σ :=
  Program.run backend (ExceptT.run a) s

end Action

end GuildRelay
