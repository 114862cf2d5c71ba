import SqlRelay.Access.Managed
/-!
# What calls leave at databases

A call takes answers in their order and leaves events at the database in use.  Each call has one
law that gives its result, the answers that are left and the events as functions of the answers to
come and the faults; the rest of the session stays as it was.

Main results:

- Definition `Session.after` is the session after events at the database in use.
- Theorems `acquire_eq`, `send_eq`, `fetch_eq`, `write_of_reported`, `write_of_asked`, `begin_eq`,
  `commit_eq` and `rollback_eq` are the laws.
- Theorem `ensureOpen_visits`: opening a database leaves at most one event, at that database.
- Theorem `ManagedGrants.grants_visits`: asking for grants opens their database and sends one query.
-/

namespace SqlRelay

/-- The answer to the next query. -/
def nextReply (replies : List Reply) : Reply :=
  replies.headD .nothing

/-- A result of a database as the result of a call. -/
def acceptedResult {α : Type} (r : Except DatabaseFault α) : Except RelayError α :=
  r.mapError .database

@[simp]
theorem acceptedResult_ok {α : Type} (a : α) : acceptedResult (.ok a) = .ok a := rfl

@[simp]
theorem acceptedResult_error {α : Type} (fault : DatabaseFault) :
    acceptedResult (.error fault : Except DatabaseFault α) = .error (.database fault) := rfl

namespace Session

/-- The session after events at the database in use, with the answers that are left. -/
def after (s : Session) (events : List Event) (left : List Reply) : Session :=
  { s with replies := left, visits := s.visits ++ events.map (⟨s.inUse, ·⟩) }

@[simp]
theorem after_replies (s : Session) (events : List Event) (left : List Reply) :
    (s.after events left).replies = left := rfl

@[simp]
theorem after_faults (s : Session) (events : List Event) (left : List Reply) :
    (s.after events left).faults = s.faults := rfl

@[simp]
theorem after_inUse (s : Session) (events : List Event) (left : List Reply) :
    (s.after events left).inUse = s.inUse := rfl

@[simp]
theorem after_visits (s : Session) (events : List Event) (left : List Reply) :
    (s.after events left).visits = s.visits ++ events.map (⟨s.inUse, ·⟩) := rfl

@[simp]
theorem after_nil (s : Session) : s.after [] s.replies = s := by
  simp [after]

/-- Events follow one another. -/
@[simp]
theorem after_after (s : Session) (first second : List Event) (between left : List Reply) :
    (s.after first between).after second left = s.after (first ++ second) left := by
  simp [after]

theorem log_eq (s : Session) (e : Event) : s.log e = s.after [e] s.replies := rfl

/-! ## Calls -/

/-- What asking for a connection comes to: nothing is sent, and only a shortage makes it fail. -/
def acquired (shortage : Option String) : Except RelayError Unit :=
  match shortage with
  | none => .ok ()
  | some text => .error (.database (.noConnection text))

/-- Asking for a connection changes nothing. -/
theorem acquire_eq (s : Session) : acquire s = (acquired s.shortage, s) := by
  simp only [acquire, Action.bind_apply, Action.get_apply]
  cases s.shortage <;> rfl

/-- Sending leaves the query and takes the next answer. -/
theorem send_eq (sql : String) (arguments : List Parameter) (s : Session) :
    send sql arguments s =
      (.ok (nextReply s.replies), s.after [.query sql arguments] s.replies.tail) := by
  unfold send takeReply log
  cases s.replies <;> simp [after, nextReply]

theorem accept_eq {α : Type} (r : Except DatabaseFault α) (s : Session) :
    accept r s = (acceptedResult r, s) := by
  cases r <;> rfl

/-- Fetching sends one query, whatever comes of it. -/
theorem fetch_eq (sql : String) (arguments : List Parameter) (s : Session) :
    fetch sql arguments s =
      (acceptedResult (nextReply s.replies).decoded,
        s.after [.query sql arguments] s.replies.tail) := by
  simp [fetch, Action.bind_apply, send_eq, accept_eq]

section Writing

variable {d : Dialect} {sql : String} {arguments : List Parameter} {s : Session} {w : WriteSummary}

/-- A write that fails. -/
theorem write_of_error {fault : DatabaseFault}
    (failed : (nextReply s.replies).written = .error fault) :
    write d sql arguments s =
      (.error (.database fault), s.after [.query sql arguments] s.replies.tail) := by
  simp [write, Action.bind_apply, send_eq, accept_eq, failed]

/-- A write whose row need not be asked for. -/
theorem write_of_reported (written : (nextReply s.replies).written = .ok w)
    (known : w.asksForRow d sql = false) :
    write d sql arguments s = (.ok w, s.after [.query sql arguments] s.replies.tail) := by
  simp [write, Action.bind_apply, send_eq, accept_eq, written, known]

/-- A write whose row is asked for with one more query. -/
theorem write_of_asked (written : (nextReply s.replies).written = .ok w)
    (asked : w.asksForRow d sql = true) :
    write d sql arguments s =
      ((acceptedResult (nextReply s.replies.tail).firstInteger).map
          (fun id => { w with lastId := some id }),
        s.after [.query sql arguments, .query lastRowQuery []] s.replies.tail.tail) := by
  simp only [write, Action.bind_apply, send_eq, accept_eq, written, acceptedResult_ok, asked,
    if_true, after_replies, after_after]
  cases (nextReply s.replies.tail).firstInteger <;> rfl

end Writing

/-- What a call comes to that only a fault can make fail. -/
def outcomeOf (fault : Option String) : Except RelayError Unit :=
  match fault with
  | none => .ok ()
  | some text => .error (.database (.reported text))

/-- The events of the end of a transaction, which is abandoned when its end fails. -/
def ending (e : Event) (fault : Option String) : List Event :=
  match fault with
  | none => [e]
  | some _ => [e, .abandon]

/-- Beginning a transaction leaves one event and takes no answer. -/
theorem begin_eq (s : Session) :
    begin s = (outcomeOf s.faults.begin, s.after [.begin] s.replies) := by
  simp only [begin, note, Action.bind_apply, Action.modify_apply, Action.get_apply, log_eq,
    after_faults]
  cases s.faults.begin <;> rfl

/-- Committing leaves the events of an ending and takes no answer. -/
theorem commit_eq (s : Session) :
    commit s =
      (outcomeOf s.faults.commit, s.after (ending .commit s.faults.commit) s.replies) := by
  simp only [commit, note, Action.bind_apply, Action.modify_apply, Action.get_apply, log_eq,
    after_faults]
  cases s.faults.commit <;> simp [outcomeOf, ending, refuse, Action.bind_apply]

/-- Rolling back leaves the events of an ending and takes no answer. -/
theorem rollback_eq (s : Session) :
    rollback s =
      (outcomeOf s.faults.rollback, s.after (ending .rollback s.faults.rollback) s.replies) := by
  simp only [rollback, note, Action.bind_apply, Action.modify_apply, Action.get_apply, log_eq,
    after_faults]
  cases s.faults.rollback <;> simp [outcomeOf, ending, refuse, Action.bind_apply]

/-! ## Opening databases -/

/-- What an attempt to reach a locator leaves: nothing if it cannot be used, and otherwise one event
with its URL. -/
def Attempt (locator : String) (events : List Event) : Prop :=
  events = [] ∨ ∃ url, Url.ofText locator = .ok url ∧ events = [.connect url.written]

/-- An attempt to reach a locator leaves its event and nothing else, and only a fault makes it
fail. -/
theorem connect_eq (locator : String) (s : Session) :
    ∃ events result, connect locator s = (result, s.after events s.replies) ∧
      Attempt locator events ∧ ∀ e, result = .error e → ∃ fault, e = .database fault := by
  unfold connect
  cases hurl : Url.ofText locator with
  | error cause =>
    exact ⟨[], .error (.database (.locator cause)), by simp [refuse], .inl rfl, by simp⟩
  | ok url =>
    simp only [Action.bind_apply, Action.get_apply]
    split
    · refine ⟨[.connect url.written], outcomeOf s.faults.connect, ?_, .inr ⟨url, hurl, rfl⟩, ?_⟩
      · simp only [note, Action.bind_apply, Action.modify_apply, log_eq]
        cases s.faults.connect <;> rfl
      · cases s.faults.connect <;> simp [outcomeOf]
    · exact ⟨[], .error (.database (.noDriver (String.ofList url.scheme))), by simp [refuse],
        .inl rfl, by simp⟩

end Session

namespace Database

/-- What opening a database leaves there: nothing if it is open, and otherwise what the attempt to
reach its locator leaves. -/
def Opening (around : Surroundings) (db : Database) (events : List Event) : Prop :=
  Session.Attempt (locator db.dialect (around.resolve db.url)) events

/-- A session turned to a database, after events there; answers, faults and whether there are
connections are as before. -/
structure TurnedTo (db : Database) (s : Session) (events : List Event) (t : Session) : Prop where
  visits : t.visits = s.visits ++ events.map (⟨db.id, ·⟩)
  replies : t.replies = s.replies
  faults : t.faults = s.faults
  shortage : t.shortage = s.shortage
  inUse : t.inUse = db.id

/-- Opening a database leaves at most one event, at that database. -/
theorem ensureOpen_visits (around : Surroundings) (db : Database) (s : Session) :
    ∃ events, db.Opening around events ∧ db.TurnedTo s events (db.ensureOpen around s).2 := by
  by_cases hopen : db.id ∈ s.opened
  · rw [ensureOpen_of_mem around db s hopen]
    exact ⟨[], .inl rfl, by simp [Session.turnTo], rfl, rfl, rfl, rfl⟩
  · obtain ⟨events, result, hconnect, attempt, -⟩ :=
      Session.connect_eq (locator db.dialect (around.resolve db.url)) (s.turnTo db.id)
    have hunopened : (s.turnTo db.id).opened.contains db.id = false := by
      simpa [Session.turnTo] using hopen
    refine ⟨events, attempt, ?_⟩
    simp only [ensureOpen, Action.bind_apply, Action.modify_apply, Action.get_apply, hunopened,
      Bool.false_eq_true, if_false, hconnect]
    cases result <;> exact ⟨rfl, rfl, rfl, rfl, rfl⟩

/-- Only a fault makes opening a database fail. -/
theorem ensureOpen_error {around : Surroundings} {db : Database} {s : Session} {e : RelayError}
    (h : (db.ensureOpen around s).1 = .error e) : ∃ fault, e = .database fault := by
  obtain ⟨events, result, hconnect, -, onlyFaults⟩ :=
    Session.connect_eq (locator db.dialect (around.resolve db.url)) (s.turnTo db.id)
  simp only [ensureOpen, Action.bind_apply, Action.modify_apply, Action.get_apply] at h
  split at h
  · simp at h
  · rw [Action.bind_apply, hconnect] at h
    cases result with
    | ok => simp at h
    | error cause =>
      obtain rfl : cause = e := by simpa using h
      exact onlyFaults cause rfl

end Database

namespace ManagedGrants

variable (m : ManagedGrants) (around : Surroundings) (token : String)

/-- The query for the grants of a token. -/
def tokenQuery : Event :=
  .query m.statement.sql (m.statement.params.map (fun _ => .text token))

/-- Asking for grants opens their database and sends one query there, unless it cannot be
opened. -/
theorem grants_visits (s : Session) :
    ∃ opening sent, m.database.Opening around opening ∧ (sent = [] ∨ sent = [m.tokenQuery token]) ∧
      (m.grants around token s).2.visits =
        s.visits ++ (opening ++ sent).map (⟨m.database.id, ·⟩) := by
  obtain ⟨opening, hopening, turned⟩ := m.database.ensureOpen_visits around s
  rcases hrun : m.database.ensureOpen around s with ⟨result, t⟩
  rw [hrun] at turned
  have hvisits : t.visits = s.visits ++ opening.map (⟨m.database.id, ·⟩) := turned.visits
  have hinUse : t.inUse = m.database.id := turned.inUse
  simp only [grants, Action.bind_apply, hrun]
  cases result with
  | error e => exact ⟨opening, [], hopening, .inl rfl, by simpa using hvisits⟩
  | ok _ =>
    refine ⟨opening, _, hopening, .inr rfl, ?_⟩
    simp only [Session.fetch_eq]
    cases (nextReply t.replies).decoded <;> simp [hvisits, hinUse, tokenQuery]

/-- Only a fault keeps grants from being given. -/
theorem grants_error {s : Session} {e : RelayError} (h : (m.grants around token s).1 = .error e) :
    ∃ fault, e = .database fault := by
  rcases hrun : m.database.ensureOpen around s with ⟨result, t⟩
  simp only [grants, Action.bind_apply, hrun] at h
  cases result with
  | error cause =>
    obtain rfl : cause = e := by simpa using h
    exact Database.ensureOpen_error (by rw [hrun])
  | ok _ =>
    simp only [Session.fetch_eq] at h
    cases hdecoded : (nextReply t.replies).decoded with
    | error fault => exact ⟨fault, by simpa [hdecoded] using h.symm⟩
    | ok rows => simp [hdecoded] at h

end ManagedGrants
end SqlRelay
