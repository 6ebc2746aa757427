import Roster.Command.Stage
import Roster.Net.Port
import Roster.Settings.Load
import Roster.Users

/-!
# Serving

The server opens its store and its cache, fills an empty store with the starters, listens, and ends
when it is told to stop.
-/

namespace Roster.Serve

/-- Opens the database and sets up its tables. -/
def openDatabase (path : Text) : Work Unit := do
  let s ← get
  let db ← Work.during "open database" (Work.ofExcept (s.machine.openDatabase path))
  let (r, world) := World.migrate { s.world with storage := .database db }
  modify fun s => { s with world, database := some path }.flush
  Work.during "run migrations" (Work.ofExcept r)
  Work.log .info "database migrations applied" [("path", .text path)]

/-- Opens the store that the settings name. -/
def openStore (s : Settings) : Work Unit := do
  if s.storage == utf8 "sqlite" then openDatabase s.databasePath
  else Work.log .info "using in-memory user store" []

/-- Reaches the cache server that the settings name; without one the cache is in process. -/
def openCache (s : Settings) : Work Unit := do
  if s.redisUrl.isEmpty then pure ()
  else
    let options ← Work.ofExcept (Cache.Options.client s.redisUrl [])
    let machine := (← get).machine
    let server ← Work.during "ping redis" (Work.ofExcept (machine.reach options))
    Work.log .info "using redis user cache" [("prefix", .text s.cacheSpace), ("ttl", .span s.cacheTtl)]
    modify fun stage =>
      { stage with
        world := { stage.world with caching := .onServer ⟨.user, s.cacheSpace, s.cacheTtl⟩ server } }

/-- Fills an empty store with the starters. -/
def seed : Work Unit := do
  if ← Work.during "seed users" (Work.perform (Users.seed true User.starters)) then
    Work.log .info "seeded default users" []

/-- Listens at an address. -/
def listen (address : Text) : Work Unit := do
  let _ ← Work.during "listen tcp" (Work.ofExcept (Net.listeningPort address))

/-- The work of the server from its start to its stop. -/
def run (s : Settings) : Work Unit := do
  openStore s
  openCache s
  if s.seed then seed
  let address := Text.byte ':' :: s.port
  Work.log .info "server starting" [("addr", .text address), ("storage", .text s.storage)]
  Work.during "server error" (listen address)
  Work.log .info "shutting down server" []
  Work.log .info "server stopped" []

end Roster.Serve
