import Toolsmith.Table

/-!
# Sessions

A store keeps the ids of open sessions with the time of their last activity. A session that has
been idle for too long has expired. The store holds a limited number of sessions; a new one takes
the place of the one that has been idle longest.

Time is counted in milliseconds. Ids are given by the caller, who never gives one twice.

## Main definitions

* `Server.SessionStore`: the open sessions.
* `Server.SessionStore.start`, `Server.SessionStore.touch`, `Server.SessionStore.close`: the
  operations.
-/

namespace Toolsmith.Server

/-- The open sessions with the time of their last activity. -/
structure SessionStore where
  /-- How long a session may be idle. -/
  idleTimeout : Nat := 30 * 60 * 1000
  /-- How many sessions are held. -/
  limit : Nat := 1024
  /-- The times of last activity by id. -/
  lastActive : Table Nat := []

namespace SessionStore

/-- The store with another limit; at least one session is held. -/
def withLimit (s : SessionStore) (limit : Nat) : SessionStore :=
  { s with limit := max limit 1 }

/-- The number of sessions, with those that have expired unnoticed. -/
def size (s : SessionStore) : Nat :=
  s.lastActive.length

/-- Whether a session with a last activity is still alive. -/
def isAlive (s : SessionStore) (now active : Nat) : Bool :=
  now - active < s.idleTimeout

/-- The session that has been idle longest. -/
def oldest? : Table Nat → Option (String × Nat)
  | [] => none
  | e :: rest =>
    match oldest? rest with
    | none => some e
    | some o => if o.2 < e.2 then some o else some e

/-- The sessions that are left after those idle longest have been dropped, one by one, until
fewer than a limit are held. The first argument bounds the number of those dropped. -/
def makeRoom (limit : Nat) : Nat → Table Nat → Table Nat
  | 0, t => t
  | fuel + 1, t =>
    if t.length < limit then t
    else match oldest? t with
      | none => t
      | some o => makeRoom limit fuel (t.erase o.1)

/-- Begins a session with a new id. -/
def start (s : SessionStore) (now : Nat) (id : String) : SessionStore :=
  let alive := s.lastActive.filter fun e ↦ s.isAlive now e.2
  { s with lastActive := (makeRoom s.limit alive.length alive).insert id now }

/-- Whether a session is open. An open session becomes active; one that has expired is
dropped. -/
def touch (s : SessionStore) (now : Nat) (id : String) : Bool × SessionStore :=
  match s.lastActive.get? id with
  | none => (false, s)
  | some active =>
    if s.isAlive now active then (true, { s with lastActive := s.lastActive.insert id now })
    else (false, { s with lastActive := s.lastActive.erase id })

/-- Ends a session, and tells whether it was held. -/
def close (s : SessionStore) (id : String) : Bool × SessionStore :=
  (s.lastActive.has id, { s with lastActive := s.lastActive.erase id })

end SessionStore

end Toolsmith.Server
