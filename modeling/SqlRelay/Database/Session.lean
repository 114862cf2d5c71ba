import SqlRelay.Action
import SqlRelay.Error
import SqlRelay.Parameter
import SqlRelay.Url.Reader
/-!
# Sessions with databases

A session holds what the databases are going to answer and keeps all that reached them.  Calls go to
the database that is in use, which has one pool of connections once it is open.  Each query takes
the next answer; when none is left the answer has no rows and affects none.  A fault makes the call
of its name fail.

Main results:

- Type `Session`, on which the actions `connect`, `acquire`, `begin`, `commit`, `rollback` and `send`
  work.
- Type `Visit`, an event at the database that was in use.
- Definition `Session.trace`: the events as databases that are acted out show them.
-/

namespace SqlRelay

/-- The answer to one query: rows first, then an error if there is one. -/
structure Reply where
  rows : List Row
  affected : Nat
  lastId : Option Int
  error : Option String

/-- The answer when nothing else is said. -/
def Reply.nothing : Reply := ⟨[], 0, none, none⟩

/-- The calls that fail, with the texts of their errors. -/
structure Faults where
  connect : Option String
  begin : Option String
  commit : Option String
  rollback : Option String

/-- No call fails. -/
def Faults.nothing : Faults := ⟨none, none, none, none⟩

/-- What reaches a database.  A transaction is abandoned when its end has failed. -/
inductive Event where
  | connect (url : String)
  | begin
  | commit
  | rollback
  | abandon
  | query (sql : String) (arguments : List Parameter)
  deriving DecidableEq, Repr

/-- The locator that an event reaches. -/
def Event.locator? : Event → Option String
  | .connect url => some url
  | _ => none

/-- An event at the database of an id. -/
structure Visit where
  database : String
  event : Event
  deriving DecidableEq, Repr

/-- What stands between the relay and its databases. -/
structure Session where
  /-- The answers to come. -/
  replies : List Reply
  /-- The calls that fail. -/
  faults : Faults
  /-- The schemes of the drivers that are installed. -/
  drivers : List String
  /-- Why a pool has no connection to give to a call that asks for one.  Then nothing reaches the
  database, so this is not among the calls that fail there. -/
  shortage : Option String
  /-- The databases that are open. -/
  opened : List String
  /-- The database that is in use. -/
  inUse : String
  /-- All that reached a database since answers and faults were put in place. -/
  visits : List Visit
  /-- The locators that earlier traces have shown. -/
  shown : List String

namespace Session

/-- The schemes of the drivers that are installed by default. -/
def defaultDrivers : List String :=
  ["sqlite", "postgres", "postgresql", "mysql", "mariadb"]

/-- A session in which nothing has happened. -/
def start : Session where
  replies := []
  faults := .nothing
  drivers := defaultDrivers
  shortage := none
  opened := []
  inUse := ""
  visits := []
  shown := []

/-- The events in order. -/
def events (s : Session) : List Event :=
  s.visits.map (·.event)

/-- Adds an event at the database in use. -/
def log (s : Session) (e : Event) : Session :=
  { s with visits := s.visits ++ [⟨s.inUse, e⟩] }

/-- Turns to a database, to which all further calls go. -/
def turnTo (s : Session) (database : String) : Session :=
  { s with inUse := database }

/-! ## Databases that are acted out -/

/-- The scheme of the driver that acts out databases.  No database of a deployment has it. -/
def actedScheme : String := "mock"

/-- Lets databases be acted out: the driver for that is installed, the answers and faults that they
are to give are put in place, and the trace begins anew. -/
def prepare (s : Session) (replies : List Reply) (faults : Faults) : Session :=
  let reached := if s.faults.connect.isSome then [] else s.events.filterMap Event.locator?
  { s with
    replies := replies
    faults := faults
    drivers := actedScheme :: defaultDrivers
    visits := []
    shown := reached ++ s.shown }

/-- The events without those that reach a locator which was reached before. -/
def firstReached (shown : List String) : List Event → List Event
  | [] => []
  | e :: rest =>
    match e.locator? with
    | none => e :: firstReached shown rest
    | some url =>
      if shown.contains url then firstReached shown rest
      else e :: firstReached (url :: shown) rest

/-- The events as databases that are acted out show them: the first to reach a locator, and every
attempt that fails. -/
def trace (s : Session) : List Event :=
  if s.faults.connect.isSome then s.events else firstReached s.shown s.events

/-! ## Calls -/

/-- An action on a session. -/
abbrev Call := Action RelayError Session

/-- The failure of a call. -/
def refuse {α : Type} (fault : DatabaseFault) : Call α :=
  Action.fail (.database fault)

/-- Leaves an event. -/
def note (e : Event) : Call Unit :=
  Action.modify (·.log e)

/-- Opens the pool of a locator, which reaches the database. -/
def connect (locator : String) : Call Unit := do
  match Url.ofText locator with
  | .error cause => refuse (.locator cause)
  | .ok url =>
    let s ← Action.get
    let scheme := String.ofList url.scheme
    if s.drivers.contains scheme then
      note (.connect url.written)
      match s.faults.connect with
      | some text => refuse (.reported text)
      | none => pure ()
    else refuse (.noDriver scheme)

/-- Asks the pool of an open database for a connection.  Nothing is sent if there is none.

Only calls that go on to use the connection ask for it; a query that is handed to the pool is one
call, and there the want of a connection is an error of its answer. -/
def acquire : Call Unit := do
  match (← Action.get).shortage with
  | some text => refuse (.noConnection text)
  | none => pure ()

/-- Begins a transaction. -/
def begin : Call Unit := do
  note .begin
  match (← Action.get).faults.begin with
  | some text => refuse (.reported text)
  | none => pure ()

/-- Commits a transaction; if that fails it is abandoned. -/
def commit : Call Unit := do
  note .commit
  match (← Action.get).faults.commit with
  | some text =>
    note .abandon
    refuse (.reported text)
  | none => pure ()

/-- Rolls a transaction back; if that fails it is abandoned. -/
def rollback : Call Unit := do
  note .rollback
  match (← Action.get).faults.rollback with
  | some text =>
    note .abandon
    refuse (.reported text)
  | none => pure ()

/-- Takes the next answer. -/
def takeReply (s : Session) : Reply × Session :=
  match s.replies with
  | [] => (.nothing, s)
  | reply :: rest => (reply, { s with replies := rest })

/-- Sends a query and takes its answer. -/
def send (sql : String) (arguments : List Parameter) : Call Reply := fun s =>
  let (reply, t) := (s.log (.query sql arguments)).takeReply
  (.ok reply, t)

end Session
end SqlRelay
