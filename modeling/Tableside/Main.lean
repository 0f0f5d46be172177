import Std.Time.DateTime.Timestamp
import Tableside.Command

/-!
The command line: `migrate [up|down]`, `seed` or `server`, on a new database.

The settings come from the variables of the environment. The time and the identifiers that a program
makes up come from the system.
-/

namespace Tableside.CommandLine

/-- The variables that settings are read from. -/
def settingNames : List String :=
  ["DATABASE_URL", "APP_HOST", "APP_PORT", "APP_ALLOWED_ORIGINS", "JWT_SECRET", "CACHE_ENABLED",
    "MENU_CACHE_TTL_SECONDS", "CACHE_OP_TIMEOUT_MS", "REDIS_URL"]

/-- The program of a name. -/
def program? : String → Option Program
  | "migrate" => some .migrate
  | "seed" => some .seed
  | "server" => some .server
  | _ => none

/-- The random identifier of sixteen bytes: version four of the first variant. -/
def randomId (bytes : List UInt8) : Uuid :=
  let n := bytes.foldl (fun n b => n * 256 + b.toNat) 0
  ⟨(BitVec.ofNat 128 n &&& ~~~(0xf#128 <<< 76 ||| 0x3#128 <<< 62)) |||
    (0x4#128 <<< 76 ||| 0x2#128 <<< 62)⟩

/-- The variables that are set, with their values. -/
def environment : IO Environment :=
  settingNames.filterMapM fun name => do
    return (← IO.getEnv name).map (name, ·)

/-- A time and identifiers for a restaurant. -/
def makeIds : IO Command.SeedIds := do
  let t ← Std.Time.Timestamp.now
  let now := Instant.mk? t.toSecondsSinceUnixEpoch.val t.val.nano.val.toNat
  let ids ← (List.range 16).mapM fun _ => do
    return randomId (← IO.getRandomBytes 16).toList
  return ⟨now.getD default, fun k => ids.getD k default⟩

/-- Runs the program that the first word names with the words after it. -/
def run (args : List String) : IO UInt32 := do
  match args.head?.bind program? with
  | none =>
    IO.eprintln "usage: migrate [up|down] | seed | server"
    return 2
  | some program =>
    let (outcome, _) := program.run args.tail (← environment) (← makeIds) .new
    IO.print outcome.stdout
    IO.eprint outcome.stderr
    return outcome.exit.toUInt32

end Tableside.CommandLine

def main (args : List String) : IO UInt32 :=
  Tableside.CommandLine.run args
