import SqlRelay.Proofs.Database.Visits
import SqlRelay.Proofs.Text.Trim
import SqlRelay.Script.Run
/-!
# The transaction of a script

A script runs in one transaction.  Its statements take their turns in order, each with one query,
until one fails; then the transaction is rolled back, and otherwise it is committed.  What reaches
the database is said here of the statements, the answers to come and the faults alone.

Main results:

- Definition `Statement.Turn` is what one statement sends, gives and leaves of the answers.
- Definition `Course` is what statements come to one after the other, up to the first that fails.
- Definition `Transaction` is what the whole script comes to.
- Theorem `runScript_all_or_nothing`: every run is such a transaction, and it succeeds exactly if
  its commit does.
-/

namespace SqlRelay

/-- The first word of a text: the letters that follow its blanks, as many as there are. -/
def FirstWord (cs word : List Char) : Prop :=
  ∃ blanks rest, Text.AllBlank blanks ∧ cs = blanks ++ word ++ rest ∧
    (∀ c ∈ word, c.isAlpha = true) ∧ ∀ c ∈ rest.head?, c.isAlpha = false

/-- SQL text whose first word is `INSERT` or `REPLACE`, in any case. -/
def Inserts (sql : String) : Prop :=
  ∃ word, FirstWord sql.toList word ∧
    (Text.lowerAscii word = ['i', 'n', 's', 'e', 'r', 't'] ∨
      Text.lowerAscii word = ['r', 'e', 'p', 'l', 'a', 'c', 'e'])

theorem isBlank_of_isAlpha {c : Char} (h : c.isAlpha = true) : Text.isBlank c = false := by
  have hranges : (decide ('A'.val ≤ c.val ∧ c.val ≤ 'Z'.val) ||
      decide ('a'.val ≤ c.val) && decide (c.val ≤ 'z'.val)) = true := h
  simp only [Bool.or_eq_true, Bool.and_eq_true, decide_eq_true_eq,
    UInt32.le_iff_toNat_le] at hranges
  have letter : (65 ≤ c.toNat ∧ c.toNat ≤ 90) ∨ (97 ≤ c.toNat ∧ c.toNat ≤ 122) := hranges
  simp only [Text.isBlank, Bool.or_eq_false_iff, Bool.and_eq_false_iff, decide_eq_false_iff_not,
    beq_eq_false_iff_ne]
  omega

/-- Trimming stops at a letter. -/
theorem trimStart_append_of_letter {blanks cs : List Char} (hblank : Text.AllBlank blanks)
    (h : ∃ c ∈ cs.head?, c.isAlpha = true) : Text.trimStart (blanks ++ cs) = cs := by
  obtain ⟨c, hc, hletter⟩ := h
  unfold Text.trimStart
  rw [List.dropWhile_append_of_pos hblank]
  cases cs with
  | nil => rfl
  | cons d cs =>
    obtain rfl : d = c := by simpa using hc
    simp [isBlank_of_isAlpha hletter]

/-- A text has one first word. -/
theorem firstWord_iff {cs word : List Char} (hne : word ≠ []) :
    FirstWord cs word ↔ (Text.trimStart cs).takeWhile Char.isAlpha = word := by
  constructor
  · rintro ⟨blanks, rest, hblank, rfl, hword, hrest⟩
    have hstart : Text.trimStart (blanks ++ word ++ rest) = word ++ rest := by
      rw [List.append_assoc]
      apply trimStart_append_of_letter hblank
      cases word with
      | nil => exact absurd rfl hne
      | cons c word => exact ⟨c, by simp, hword c (by simp)⟩
    rw [hstart, List.takeWhile_append_of_pos hword]
    cases rest with
    | nil => simp
    | cons c rest => simp [hrest c (by simp)]
  · rintro rfl
    obtain ⟨blanks, hblank, hsplit⟩ := Text.trimStart_split cs
    refine ⟨blanks, (Text.trimStart cs).dropWhile Char.isAlpha, hblank, ?_, ?_, ?_⟩
    · rw [List.append_assoc, List.takeWhile_append_dropWhile]
      exact hsplit
    · intro c hc
      exact List.mem_takeWhile_imp hc
    · intro c hc
      have := List.head?_dropWhile_not Char.isAlpha (Text.trimStart cs)
      rw [Option.mem_def.1 hc] at this
      simpa using this

/-- The test for statements that make rows accepts those that insert. -/
theorem makesRows_iff (sql : String) : makesRows sql = true ↔ Inserts sql := by
  have insertLower : Text.lowerAscii ['i', 'n', 's', 'e', 'r', 't'] =
    ['i', 'n', 's', 'e', 'r', 't'] := by decide
  have replaceLower : Text.lowerAscii ['r', 'e', 'p', 'l', 'a', 'c', 'e'] =
    ['r', 'e', 'p', 'l', 'a', 'c', 'e'] := by decide
  simp only [makesRows, Text.sameLetters, insertLower, replaceLower, Bool.or_eq_true, beq_iff_eq]
  constructor
  · intro h
    refine ⟨_, (firstWord_iff ?_).2 rfl, h⟩
    intro hnil
    rw [hnil] at h
    simp [Text.lowerAscii] at h
  · rintro ⟨word, hfirst, hword⟩
    have hne : word ≠ [] := by
      rintro rfl
      simp [Text.lowerAscii] at hword
    rw [(firstWord_iff hne).1 hfirst]
    exact hword

/-! ## Turns of statements -/

/-- The first of several names without a value. -/
def FirstAbsent (ps : Parameters) (names : List String) (name : String) : Prop :=
  ∃ before behind, names = before ++ name :: behind ∧
    (∀ other ∈ before, (ps.get? other).isSome = true) ∧ ps.get? name = none

/-- A write after which the row that it made is asked for: an insertion on SQLite that affected
rows and whose row was not reported. -/
structure WriteSummary.Unreported (w : WriteSummary) (d : Dialect) (sql : String) : Prop where
  dialect : d = .sqlite
  inserts : Inserts sql
  affected : 0 < w.affected
  lastId : w.lastId = none

/-- A row is asked for if it was made on SQLite and is not reported. -/
theorem WriteSummary.asksForRow_iff (w : WriteSummary) (d : Dialect) (sql : String) :
    w.asksForRow d sql = true ↔ w.Unreported d sql := by
  simp only [asksForRow, Bool.and_eq_true, Option.isNone_iff_eq_none, decide_eq_true_eq,
    makesRows_iff]
  constructor
  · rintro ⟨⟨⟨hid, haffected⟩, hdialect⟩, hinserts⟩
    exact ⟨hdialect, hinserts, haffected, hid⟩
  · rintro ⟨hdialect, hinserts, haffected, hid⟩
    exact ⟨⟨⟨hid, haffected⟩, hdialect⟩, hinserts⟩

/-- The turn of one statement when `replies` are to come: the events, what it gives, and the
answers that are left.  A statement without all its values sends nothing; any other sends its SQL
text once, and asks for the row of an insertion where that was not reported. -/
inductive Statement.Turn (d : Dialect) (ps : Parameters) (m : Metadata) (st : Statement)
    (replies : List Reply) : List Event → Except RelayError Json → List Reply → Prop where
  | unbound {name : String} (absent : FirstAbsent ps st.params name) :
      Turn d ps m st replies [] (.error (.badInput (.absent name))) replies
  | fetched {values : List Parameter} (bound : st.params.map ps.get? = values.map some)
      (query : st.isQuery = true) :
      Turn d ps m st replies [.query (m.splice st.sql) values]
        ((acceptedResult (nextReply replies).decoded).map rowsJson) replies.tail
  | refused {values : List Parameter} {fault : DatabaseFault}
      (bound : st.params.map ps.get? = values.map some) (write : st.isQuery = false)
      (failed : (nextReply replies).written = .error fault) :
      Turn d ps m st replies [.query (m.splice st.sql) values] (.error (.database fault))
        replies.tail
  | wrote {values : List Parameter} {w : WriteSummary}
      (bound : st.params.map ps.get? = values.map some) (write : st.isQuery = false)
      (written : (nextReply replies).written = .ok w) (known : ¬ w.Unreported d (m.splice st.sql)) :
      Turn d ps m st replies [.query (m.splice st.sql) values] (.ok w.toJson) replies.tail
  | readBack {values : List Parameter} {w : WriteSummary}
      (bound : st.params.map ps.get? = values.map some) (write : st.isQuery = false)
      (written : (nextReply replies).written = .ok w) (unknown : w.Unreported d (m.splice st.sql)) :
      Turn d ps m st replies [.query (m.splice st.sql) values, .query lastRowQuery []]
        ((acceptedResult (nextReply replies.tail).firstInteger).map
          (fun id => { w with lastId := some id : WriteSummary }.toJson))
        replies.tail.tail

/-- Binding fails at the first name without a value. -/
theorem bindNames_of_error {ps : Parameters} {names : List String} {e : RelayError}
    (h : bindNames ps names = .error e) :
    ∃ name, e = .badInput (.absent name) ∧ FirstAbsent ps names name := by
  induction names with
  | nil => simp [bindNames] at h
  | cons name rest ih =>
    unfold bindNames at h
    cases hvalue : ps.get? name with
    | none =>
      simp only [hvalue, Except.error.injEq] at h
      exact ⟨name, h.symm, [], rest, rfl, by simp, hvalue⟩
    | some value =>
      simp only [hvalue] at h
      cases hrest : bindNames ps rest with
      | ok values => simp [hrest] at h
      | error e' =>
        simp only [hrest, Except.error.injEq] at h
        subst h
        obtain ⟨found, heq, before, behind, rfl, hbefore, habsent⟩ := ih hrest
        refine ⟨found, heq, name :: before, behind, rfl, ?_, habsent⟩
        simpa [hvalue] using hbefore

/-- Every statement takes its turn. -/
theorem Statement.run_is_turn (d : Dialect) (ps : Parameters) (m : Metadata) (st : Statement)
    (s : Session) :
    ∃ events result left, st.run d ps m s = (result, s.after events left) ∧
      st.Turn d ps m s.replies events result left := by
  unfold run Statement.arguments
  cases hbind : bindNames ps st.params with
  | error e =>
    obtain ⟨name, rfl, absent⟩ := bindNames_of_error hbind
    refine ⟨[], _, s.replies, ?_, .unbound absent⟩
    simp [Action.bind_apply]
  | ok values =>
    have bound := (bindNames_eq_ok_iff ps st.params values).1 hbind
    simp only [Action.bind_apply, Action.ofExcept_apply]
    cases hquery : st.isQuery with
    | true =>
      refine ⟨_, _, _, ?_, .fetched bound hquery⟩
      simp only [if_true, Action.bind_apply, Session.fetch_eq]
      cases (nextReply s.replies).decoded <;> rfl
    | false =>
      simp only [Bool.false_eq_true, if_false, Action.bind_apply]
      cases hwritten : (nextReply s.replies).written with
      | error fault =>
        refine ⟨_, _, _, ?_, .refused bound hquery hwritten⟩
        simp [Session.write_of_error hwritten]
      | ok w =>
        cases hasks : w.asksForRow d (m.splice st.sql) with
        | false =>
          refine ⟨_, _, _, ?_, .wrote bound hquery hwritten ?_⟩
          · simp [Session.write_of_reported hwritten hasks]
          · rw [← w.asksForRow_iff, hasks]
            simp
        | true =>
          refine ⟨_, _, _, ?_, .readBack bound hquery hwritten ((w.asksForRow_iff _ _).1 hasks)⟩
          rw [Session.write_of_asked hwritten hasks]
          cases (nextReply s.replies.tail).firstInteger <;> rfl

/-! ## Courses of statements -/

/-- The statements of a list, one after the other: all of them give their outputs in order, or the
first that fails ends the course with its error and leaves the rest of the list alone. -/
inductive Course (d : Dialect) (ps : Parameters) (m : Metadata) :
    List Statement → List Reply → List Event → Except RelayError (List Json) → List Reply →
      Prop where
  | finished {replies : List Reply} : Course d ps m [] replies [] (.ok []) replies
  | failed {st : Statement} {rest : List Statement} {replies left : List Reply}
      {events : List Event} {e : RelayError}
      (turn : st.Turn d ps m replies events (.error e) left) :
      Course d ps m (st :: rest) replies events (.error e) left
  | went {st : Statement} {rest : List Statement} {replies between left : List Reply}
      {events more : List Event} {output : Json} {result : Except RelayError (List Json)}
      (turn : st.Turn d ps m replies events (.ok output) between)
      (onwards : Course d ps m rest between more result left) :
      Course d ps m (st :: rest) replies (events ++ more) (result.map (output :: ·)) left

/-- The outputs of exported statements under their labels. -/
def exportsOf (statements : List Statement) (outputs : List Json) : List (String × Json) :=
  ((statements.zip outputs).filter (·.1.isExported)).map (fun pair => (pair.1.label, pair.2))

/-- The outputs that a first statement exports are put in first. -/
theorem putAll_exportsOf_cons (exports : Fields Json) (st : Statement) (rest : List Statement)
    (output : Json) (outputs : List Json) :
    exports.putAll (exportsOf (st :: rest) (output :: outputs)) =
      (if st.isExported then exports.put st.label output else exports).putAll
        (exportsOf rest outputs) := by
  cases h : st.isExported <;> simp [exportsOf, Fields.putAll, h]

/-- The statements of a script take their course. -/
theorem runStatements_is_course (d : Dialect) (ps : Parameters) (m : Metadata)
    (statements : List Statement) (exports : Fields Json) (s : Session) :
    ∃ events result left,
      runStatements d ps m exports statements s =
        (result.map (fun outputs => exports.putAll (exportsOf statements outputs)),
          s.after events left) ∧
      Course d ps m statements s.replies events result left := by
  induction statements generalizing exports s with
  | nil =>
    refine ⟨[], .ok [], s.replies, ?_, .finished⟩
    simp [runStatements, exportsOf, Fields.putAll, Except.map]
  | cons st rest ih =>
    obtain ⟨events, output, between, hturn, turn⟩ := st.run_is_turn d ps m s
    simp only [runStatements, Action.bind_apply, hturn]
    cases output with
    | error e => exact ⟨events, .error e, between, rfl, .failed turn⟩
    | ok output =>
      obtain ⟨more, result, left, hrest, onwards⟩ :=
        ih (if st.isExported then exports.put st.label output else exports) (s.after events between)
      refine ⟨events ++ more, result.map (output :: ·), left, ?_, .went turn onwards⟩
      dsimp only
      rw [hrest]
      cases result <;> simp [Except.map, putAll_exportsOf_cons]

/-- Statements send queries and nothing else. -/
theorem Course.isQuery {d : Dialect} {ps : Parameters} {m : Metadata}
    {statements : List Statement} {replies left : List Reply} {events : List Event}
    {result : Except RelayError (List Json)}
    (course : Course d ps m statements replies events result left) :
    ∀ e ∈ events, ∃ sql arguments, e = .query sql arguments := by
  have ofTurn : ∀ {st : Statement} {replies left events result},
      st.Turn d ps m replies events result left →
        ∀ e ∈ events, ∃ sql arguments, e = Event.query sql arguments := by
    intro st replies left events result turn
    cases turn <;> simp
  induction course with
  | finished => simp
  | failed turn => exact ofTurn turn
  | went turn _ ih =>
    intro e he
    rcases List.mem_append.1 he with he | he
    · exact ofTurn turn e he
    · exact ih e he

/-! ## Transactions -/

/-- The transaction of a script under faults, when `replies` are to come: the events, the result,
and the answers that are left.  After a statement that failed there is an attempt to roll back, and
its error is the result whatever comes of that. -/
inductive Transaction (d : Dialect) (ps : Parameters) (m : Metadata) (statements : List Statement)
    (faults : Faults) (replies : List Reply) :
    List Event → Except RelayError ScriptOutput → List Reply → Prop where
  | notBegun {text : String} (fault : faults.begin = some text) :
      Transaction d ps m statements faults replies [.begin]
        (.error (.database (.reported text))) replies
  | rolledBack {events : List Event} {e : RelayError} {left : List Reply}
      (begun : faults.begin = none)
      (course : Course d ps m statements replies events (.error e) left) :
      Transaction d ps m statements faults replies
        (.begin :: events ++ Session.ending .rollback faults.rollback) (.error e) left
  | notCommitted {events : List Event} {outputs : List Json} {left : List Reply} {text : String}
      (begun : faults.begin = none)
      (course : Course d ps m statements replies events (.ok outputs) left)
      (fault : faults.commit = some text) :
      Transaction d ps m statements faults replies (.begin :: events ++ [.commit, .abandon])
        (.error (.database (.reported text))) left
  | committed {events : List Event} {outputs : List Json} {left : List Reply}
      (begun : faults.begin = none)
      (course : Course d ps m statements replies events (.ok outputs) left)
      (sound : faults.commit = none) :
      Transaction d ps m statements faults replies (.begin :: events ++ [.commit])
        (.ok (.ofExports (Fields.ofList (exportsOf statements outputs)))) left

/-- A transaction succeeds exactly if its commit does. -/
theorem Transaction.ok_iff_commit {d : Dialect} {ps : Parameters} {m : Metadata}
    {statements : List Statement} {faults : Faults} {replies left : List Reply}
    {events : List Event} {result : Except RelayError ScriptOutput}
    (transaction : Transaction d ps m statements faults replies events result left) :
    (∃ output, result = .ok output) ↔ .commit ∈ events ∧ faults.commit = none := by
  cases transaction with
  | notBegun fault => simp
  | rolledBack begun course =>
    have hcourse := course.isQuery .commit
    cases hrollback : faults.rollback <;> simp_all [Session.ending]
  | notCommitted begun course fault => simp [fault]
  | committed begun course sound => simp [sound]

/-- Every run of a script is a transaction. -/
theorem runScript_is_transaction (d : Dialect) (statements : List Statement) (ps : Parameters)
    (m : Metadata) (s : Session) :
    ∃ events result left,
      runScript d statements ps m s = (result, s.after events left) ∧
      Transaction d ps m statements s.faults s.replies events result left := by
  unfold runScript
  simp only [Action.bind_apply, Session.begin_eq]
  cases hbegin : s.faults.begin with
  | some text => exact ⟨[.begin], _, s.replies, rfl, .notBegun hbegin⟩
  | none =>
    obtain ⟨events, result, left, hrun, course⟩ :=
      runStatements_is_course d ps m statements [] (s.after [.begin] s.replies)
    simp only [Session.outcomeOf, Action.attempt_apply, hrun]
    cases result with
    | error e =>
      refine ⟨_, _, _, ?_, .rolledBack hbegin course⟩
      simp [Except.map, Action.bind_apply, Session.rollback_eq]
    | ok outputs =>
      simp only [Except.map, Action.bind_apply, Session.commit_eq]
      cases hcommit : s.faults.commit with
      | some text =>
        refine ⟨_, _, _, ?_, .notCommitted hbegin course hcommit⟩
        simp [hcommit, Session.outcomeOf, Session.ending]
      | none =>
        refine ⟨_, _, _, ?_, .committed hbegin course hcommit⟩
        simp [hcommit, Session.outcomeOf, Session.ending, Fields.ofList]

/-- Running a script leaves the events of its transaction at the database in use and changes
nothing else of the session but the answers to come; it succeeds exactly if its commit does. -/
theorem runScript_all_or_nothing (d : Dialect) (statements : List Statement) (ps : Parameters)
    (m : Metadata) (s : Session) :
    ∃ events result left,
      runScript d statements ps m s = (result, s.after events left) ∧
      Transaction d ps m statements s.faults s.replies events result left ∧
      ((∃ output, result = .ok output) ↔ .commit ∈ events ∧ s.faults.commit = none) := by
  obtain ⟨events, result, left, hrun, transaction⟩ :=
    runScript_is_transaction d statements ps m s
  exact ⟨events, result, left, hrun, transaction, transaction.ok_iff_commit⟩

end SqlRelay
