import SyntaxPlayground.Session
import SyntaxPlayground.SessionId

/-!
# The store of sessions

The store gives sessions their identifiers, limits their number, and drops those that have been
idle for longer than their time to live. Dropping a session has two steps: it is taken out of the
register, so that nobody finds it any more, and then it is closed. Somebody who found it before
still holds it, so it is kept among the retired ones.
-/

namespace SyntaxPlayground

/-- Why the store refuses a request. -/
inductive StoreError where
  | notFound (id : Text)
  | limitReached (limit : Int)
deriving DecidableEq, Repr

namespace StoreError

/-- The text shown for the error. -/
def message : StoreError → Text
  | notFound id => utf8 "session not found: " ++ id
  | limitReached limit => utf8 "session limit reached (" ++ Text.ofInt limit ++ utf8 ")"

end StoreError

/-- All sessions. Times are in nanoseconds. -/
structure Store where
  unit : OffsetUnit
  /-- How long a session may be idle. -/
  ttl : Int
  /-- How many sessions there may be; no limit if it is not positive. -/
  limit : Int
  ids : SessionId.Source := {}
  /-- The sessions that can be found, oldest first. -/
  registered : List Session := []
  /-- The sessions that were taken out, oldest removal first. -/
  retired : List Session := []
  /-- Whether idle sessions are dropped from time to time. -/
  cleaning : Bool := false

namespace Store

/-- The number of sessions that can be found. -/
def size (s : Store) : Nat :=
  s.registered.length

/-- Starts a session. -/
def create (s : Store) (now : Int) (random : Fin 8 → UInt8) : Except StoreError (Session × Store) :=
  if 0 < s.limit ∧ s.limit ≤ s.size then .error (.limitReached s.limit)
  else
    let (id, ids) := s.ids.next (now / 1000000).toNat random
    let session := Session.new id s.unit now
    .ok (session, { s with ids, registered := s.registered ++ [session] })

/-- Finds a session. -/
def get (s : Store) (id : Text) : Except StoreError Session :=
  match s.registered.find? (·.id == id) with
  | some session => .ok session
  | none => .error (.notFound id)

/-- The session with the given identifier, whether it can still be found or not. -/
def held? (s : Store) (id : Text) : Option Session :=
  (s.registered ++ s.retired).find? (·.id == id)

/-- Changes the session with the given identifier, whether it can still be found or not. -/
def update (s : Store) (id : Text) (f : Session → Session) : Store :=
  let change (session : Session) := if session.id = id then f session else session
  { s with registered := s.registered.map change, retired := s.retired.map change }

/-- Takes the sessions that `p` is true of out of the register. -/
def retire (s : Store) (p : Session → Bool) : Store :=
  { s with
    registered := s.registered.filter fun session => !p session
    retired := s.retired ++ s.registered.filter p }

/-- Closes the sessions that were taken out. -/
def closeRetired (s : Store) : Store :=
  { s with retired := s.retired.map Session.close }

/-- Drops a session. -/
def delete (s : Store) (id : Text) : Except StoreError Store :=
  match s.get id with
  | .error e => .error e
  | .ok _ => .ok (s.retire (·.id == id)).closeRetired

/-- Whether a session has been idle for too long. -/
def isExpired (s : Store) (now : Int) (session : Session) : Bool :=
  s.ttl < now - session.lastActive

/-- Drops the sessions that have been idle for too long; answers their number. -/
def cleanup (s : Store) (now : Int) : Nat × Store :=
  ((s.registered.filter (s.isExpired now)).length, (s.retire (s.isExpired now)).closeRetired)

/-- From now on idle sessions are dropped from time to time. -/
def start (s : Store) : Store :=
  { s with cleaning := true }

/-- What happens from time to time. -/
def tick (s : Store) (now : Int) : Store :=
  if s.cleaning then (s.cleanup now).2 else s

/-- Drops every session and no longer looks for idle ones. -/
def stop (s : Store) : Store :=
  { (s.retire fun _ => true).closeRetired with cleaning := false }

/-- Runs a command on a session that the caller holds. -/
def command (s : Store) (compiler : Compiler) (now : Int) (id : Text) (c : Command) :
    Except SessionError Answer × Store :=
  match s.held? id with
  | none => (.error .closed, s)
  | some session =>
    let (result, session) := session.run compiler now c
    (result, s.update id fun _ => session)

end Store

end SyntaxPlayground
