import Tableside.Config

/-!
What is asked of a cache and what it answers.

A cache keeps texts under keys for a time. Reading tells a miss from a text that is there, an empty
one included. A call can fail, and then it has no effect.
-/

namespace Tableside

/-- A request to a cache. -/
inductive CacheCall
  | get (key : String)
  | set (key value : String) (ttl : Nanos)
  | del (keys : List String)
deriving DecidableEq, Repr

/-- The kinds of requests. -/
inductive CacheOp
  | get
  | set
  | del
deriving DecidableEq, Repr, Inhabited

/-- The kind of a request. -/
def CacheCall.op : CacheCall → CacheOp
  | get _ => .get
  | set _ _ _ => .set
  | del _ => .del

/-- The answer of a cache: the text that was asked for, if it is there, or that the call is done. -/
inductive CacheReply
  | value (text : Option String)
  | done
deriving DecidableEq, Repr, Inhabited

/-- Why a call had no effect. -/
inductive CacheError
  | timeout
  | backend
deriving DecidableEq, Repr, Inhabited

/-- The key under which the menu of a tenant code is kept. -/
def menuKey (code : String) : String :=
  "menu:tenant:" ++ code

end Tableside
