import Tableside.Text.Blank
import Tableside.Text.Digits
import Tableside.Text.Split

/-!
The settings of a server, read from named variables.

A variable that is missing or that does not spell a value of its kind gives way to the default; only
the address of the database has none. Spans of time are counted in nanoseconds.
-/

namespace Tableside

/-- Nanoseconds. -/
abbrev Nanos := Nat

namespace Nanos

def ofSeconds (n : Nat) : Nanos := n * 1000000000

def ofMillis (n : Nat) : Nanos := n * 1000000

end Nanos

/-- How menus are cached. -/
structure CacheConfig where
  enabled : Bool
  /-- How long a menu may be served from the cache; zero turns reading and storing off. -/
  menuTtl : Nanos
  /-- How long a single cache call may take. -/
  opTimeout : Nanos
  /-- The shared server, or none for a cache within the process. -/
  redisUrl : Option String
deriving DecidableEq, Inhabited

namespace CacheConfig

/-- Caching within the process, for five minutes. -/
def default : CacheConfig :=
  ⟨true, Nanos.ofSeconds 300, Nanos.ofSeconds 3, none⟩

end CacheConfig

/-- The settings of a server. -/
structure AppConfig where
  databaseUrl : String
  host : String
  port : Nat
  allowedOrigins : List String
  /-- The key of administrators' tokens; without it every administrator's request fails. -/
  jwtSecret : Option String
  cache : CacheConfig
deriving DecidableEq, Inhabited

/-- Variables and their values. -/
abbrev Environment := List (String × String)

namespace Environment

/-- A whole number of at most `max`. -/
def natural? (max : Nat) (s : String) : Option Nat :=
  Text.natUpTo? max s.toList

/-- A truth value. -/
def truth? (s : String) : Option Bool :=
  if s = "true" then some true else if s = "false" then some false else none

/-- The trimmed value of a variable, none when nothing is left. -/
def filled? (env : Environment) (name : String) : Option String :=
  ((env.lookup name).map Text.trim).filter fun value => !value.isEmpty

end Environment

/-- Why no settings can be read. -/
inductive ConfigError
  | noDatabaseUrl
deriving DecidableEq, Repr

/-- The text of a failure. -/
def ConfigError.message : ConfigError → String
  | noDatabaseUrl => "environment variable not found"

namespace AppConfig

open Environment

/-- The trimmed pieces of a list of origins that are not empty. -/
def originsOf (s : String) : List String :=
  ((Text.splitAll ',' s.toList).map fun cs => String.ofList (Text.trimChars cs)).filter fun s =>
    !s.isEmpty

/-- The settings that a set of variables gives. -/
def ofEnvironment (env : Environment) : Except ConfigError AppConfig :=
  match env.lookup "DATABASE_URL" with
  | none => .error .noDatabaseUrl
  | some databaseUrl => .ok {
      databaseUrl
      host := (env.lookup "APP_HOST").getD "127.0.0.1"
      port := ((env.lookup "APP_PORT").bind (natural? 65535)).getD 8080
      allowedOrigins := originsOf ((env.lookup "APP_ALLOWED_ORIGINS").getD "http://localhost:3000")
      jwtSecret := filled? env "JWT_SECRET"
      cache := {
        enabled := ((env.lookup "CACHE_ENABLED").bind truth?).getD CacheConfig.default.enabled
        menuTtl := (((env.lookup "MENU_CACHE_TTL_SECONDS").bind (natural? (UInt64.size - 1))).map
          Nanos.ofSeconds).getD CacheConfig.default.menuTtl
        opTimeout := (((env.lookup "CACHE_OP_TIMEOUT_MS").bind (natural? (UInt64.size - 1))).map
          Nanos.ofMillis).getD CacheConfig.default.opTimeout
        redisUrl := filled? env "REDIS_URL" } }

end AppConfig

end Tableside
