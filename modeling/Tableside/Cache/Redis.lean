import Tableside.Cache.Call
import Tableside.Text.Digits

/-!
A shared cache server and its clients.

The server is a map from keys to texts that answers commands. A client turns a call into at most one
command: a life below a millisecond deletes the key, since the server counts whole milliseconds, and
deleting no keys asks nothing. The server keeps no time here.
-/

namespace Tableside

/-- A command to the server. -/
inductive RedisCommand
  | ping
  | get (key : String)
  | setFor (key value : String) (millis : Nat)
  | del (keys : List String)
deriving DecidableEq, Repr, Inhabited

/-- The words of a command as they are sent. -/
def RedisCommand.words : RedisCommand → List String
  | ping => ["PING"]
  | get key => ["GET", key]
  | setFor key value millis => ["PSETEX", key, String.ofList (Text.decimal millis), value]
  | del keys => "DEL" :: keys

/-- The server: its texts, and whether it answers the next command with an error. -/
structure RedisServer where
  entries : List (String × String)
  failing : Bool
deriving DecidableEq, Inhabited

namespace RedisServer

/-- The server without entries. -/
def empty : RedisServer := ⟨[], false⟩

/-- The server without a key. -/
def erase (s : RedisServer) (key : String) : RedisServer :=
  { s with entries := s.entries.filter fun e => e.1 != key }

/-- The answer to a command and the server after it. An error has no effect. -/
def answer (s : RedisServer) (command : RedisCommand) :
    Except CacheError CacheReply × RedisServer :=
  if s.failing then (.error .backend, { s with failing := false })
  else
    match command with
    | .ping => (.ok .done, s)
    | .get key => (.ok (.value (s.entries.lookup key)), s)
    | .setFor key value _ =>
      (.ok .done, { s with entries := (key, value) :: (s.erase key).entries })
    | .del keys => (.ok .done, keys.foldl erase s)

/-- The command that a client sends for a call, if any. -/
def commandFor? : CacheCall → Option RedisCommand
  | .get key => some (.get key)
  | .set key value ttl =>
    let millis := min (ttl / 1000000) (UInt64.size - 1)
    some (if millis = 0 then .del [key] else .setFor key value millis)
  | .del keys => if keys.isEmpty then none else some (.del keys)

/-- The answer to a call of a client and the server after it. -/
def call (s : RedisServer) (c : CacheCall) : Except CacheError CacheReply × RedisServer :=
  match commandFor? c with
  | some command => s.answer command
  | none => (.ok .done, s)

/-- Connecting asks the server for a sign of life. -/
def connect (s : RedisServer) : Except CacheError Unit × RedisServer :=
  match s.answer .ping with
  | (.ok _, s) => (.ok (), s)
  | (.error e, s) => (.error e, s)

end RedisServer

end Tableside
