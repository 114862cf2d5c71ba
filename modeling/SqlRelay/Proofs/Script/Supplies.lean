import Mathlib.Data.List.Induction
import SqlRelay.Script.Shelf
/-!
# What a script supplies

Calls for the statements of a script come one after the other: each finds what the call before it
left, and the next one waits until it is done.  In between the file of the script may change in any
way, so every call brings surroundings of its own.

Main results:

- Definition `Script.serve` carries out calls one after the other.
- Definition `Script.Answer` lists what one call can come to, and theorem
  `Script.statements_answer` says that it comes to nothing else.
- Theorem `Script.serve_answer`: so does one more call at the end of a run.
- Theorem `Script.serve_shelf`: what is kept is what the last call gave, and nothing if it failed.
- Theorem `Script.serve_sourced`: what is kept was compiled from the source of the latest call that
  was not answered from the shelf.
- Theorem `Script.supplies_current_source` puts them together for every call of every run.
-/

namespace SqlRelay

/-- A call for the statements of a script: the surroundings in which it is made, the dialect, and
whether the statements are to be compiled anew. -/
structure Demand where
  around : Surroundings
  dialect : Dialect
  anew : Bool

/-- The statements that are kept are those that a call asks for. -/
structure Demand.Finds (demand : Demand) (shelf : Shelf) (statements : List Statement) : Prop where
  wanted : demand.anew = false
  kept : shelf = some ⟨demand.dialect, statements⟩

/-- A call with what it came to. -/
structure Served where
  demand : Demand
  result : Except RelayError Supply

/-- The call was answered from the shelf. -/
def Served.FromShelf (call : Served) : Prop :=
  ∃ statements, call.result = .ok ⟨statements, true⟩

/-- What calls leave on the shelf: the statements of the last one, if it went well. -/
def keptAfter (calls : List Served) : Shelf :=
  match calls.getLast? with
  | some ⟨demand, .ok supply⟩ => some ⟨demand.dialect, supply.statements⟩
  | _ => none

@[simp]
theorem keptAfter_snoc_ok (calls : List Served) (demand : Demand) (supply : Supply) :
    keptAfter (calls ++ [⟨demand, .ok supply⟩]) = some ⟨demand.dialect, supply.statements⟩ := by
  simp [keptAfter]

@[simp]
theorem keptAfter_snoc_error (calls : List Served) (demand : Demand) (e : RelayError) :
    keptAfter (calls ++ [⟨demand, .error e⟩]) = none := by
  simp [keptAfter]

/-- The last of several calls went well: it was for a dialect, and gave these statements. -/
def LastGave (calls : List Served) (d : Dialect) (statements : List Statement) : Prop :=
  ∃ last supply, calls.getLast? = some last ∧ last.demand.dialect = d ∧
    last.result = .ok supply ∧ supply.statements = statements

/-- What is kept is what the last call gave. -/
theorem keptAfter_eq_some_iff (calls : List Served) (d : Dialect) (statements : List Statement) :
    keptAfter calls = some ⟨d, statements⟩ ↔ LastGave calls d statements := by
  unfold keptAfter LastGave
  cases hlast : calls.getLast? with
  | none => simp
  | some last =>
    obtain ⟨demand, result⟩ := last
    cases result with
    | error e => simp
    | ok supply => simp

namespace Script

variable (s : Script)

/-- One more call, behind those that were made before. -/
def serveNext (before : List Served × Shelf) (demand : Demand) : List Served × Shelf :=
  let (result, left) := s.statements demand.around demand.dialect demand.anew before.2
  (before.1 ++ [⟨demand, result⟩], left)

/-- Carries out calls one after the other, from an empty shelf: the calls with what they came to,
and what is kept in the end. -/
def serve (demands : List Demand) : List Served × Shelf :=
  demands.foldl s.serveNext ([], none)

/-- Calls are served one after the other. -/
theorem serve_snoc (demands : List Demand) (demand : Demand) :
    s.serve (demands ++ [demand]) = s.serveNext (s.serve demands) demand := by
  simp [serve]

/-! ## One call -/

/-- What a call comes to and what it leaves.  What is kept for the dialect is the answer unless it
is to be compiled anew; otherwise the source is compiled, and a failure leaves nothing. -/
inductive Answer (demand : Demand) (shelf : Shelf) : Except RelayError Supply → Shelf → Prop where
  | kept {statements : List Statement} (found : demand.Finds shelf statements) :
      Answer demand shelf (.ok ⟨statements, true⟩) shelf
  | failed {e : RelayError} (fresh : ∀ statements, ¬ demand.Finds shelf statements)
      (failed : s.compiled demand.around demand.dialect = .error e) :
      Answer demand shelf (.error e) none
  | compiled {statements : List Statement} (fresh : ∀ statements, ¬ demand.Finds shelf statements)
      (compiled : s.compiled demand.around demand.dialect = .ok statements) :
      Answer demand shelf (.ok ⟨statements, false⟩) (some ⟨demand.dialect, statements⟩)

/-- What a call finds is its answer, whatever the surroundings are. -/
theorem statements_of_finds (around : Surroundings) {demand : Demand} {shelf : Shelf}
    {statements : List Statement} (found : demand.Finds shelf statements) :
    s.statements around demand.dialect demand.anew shelf = (.ok ⟨statements, true⟩, shelf) := by
  rw [found.wanted, found.kept]
  exact s.statements_of_kept around ⟨demand.dialect, statements⟩

/-- A call that finds nothing compiles the source. -/
theorem statements_of_not_finds {demand : Demand} {shelf : Shelf}
    (fresh : ∀ statements, ¬ demand.Finds shelf statements) :
    s.statements demand.around demand.dialect demand.anew shelf =
      match s.compiled demand.around demand.dialect with
      | .error e => (.error e, none)
      | .ok list => (.ok ⟨list, false⟩, some ⟨demand.dialect, list⟩) := by
  have hmissed : (if demand.anew then none else keptFor shelf demand.dialect) = none := by
    by_cases hanew : demand.anew = true
    · simp [hanew]
    · simp only [hanew, Bool.false_eq_true, if_false]
      cases shelf with
      | none => rfl
      | some kept =>
        obtain ⟨dialect, statements⟩ := kept
        have hother : dialect ≠ demand.dialect := by
          rintro rfl
          exact fresh statements ⟨by simpa using hanew, rfl⟩
        simp [keptFor, hother]
  cases hcompiled : s.compiled demand.around demand.dialect with
  | error e => simp [statements, hmissed, hcompiled]
  | ok list => simp [statements, hmissed, hcompiled]

/-- Every call comes to one of the three. -/
theorem statements_answer (demand : Demand) (shelf : Shelf) :
    s.Answer demand shelf
      (s.statements demand.around demand.dialect demand.anew shelf).1
      (s.statements demand.around demand.dialect demand.anew shelf).2 := by
  by_cases hfinds : ∃ statements, demand.Finds shelf statements
  · obtain ⟨statements, found⟩ := hfinds
    rw [s.statements_of_finds demand.around found]
    exact .kept found
  · have fresh : ∀ statements, ¬ demand.Finds shelf statements :=
      fun statements found => hfinds ⟨statements, found⟩
    rw [s.statements_of_not_finds fresh]
    cases hcompiled : s.compiled demand.around demand.dialect with
    | error e => exact .failed fresh hcompiled
    | ok statements => exact .compiled fresh hcompiled

variable {s}

/-- A call is answered from the shelf exactly with what it finds there. -/
theorem Answer.kept_iff {demand : Demand} {shelf left : Shelf} {result : Except RelayError Supply}
    (answer : s.Answer demand shelf result left) (statements : List Statement) :
    result = .ok ⟨statements, true⟩ ↔ demand.Finds shelf statements := by
  cases answer with
  | kept found =>
    constructor
    · intro hresult
      obtain rfl : _ = statements := by simpa using hresult
      exact found
    · intro other
      obtain rfl : _ = statements := by simpa using found.kept.symm.trans other.kept
      rfl
  | failed fresh failed => simp [fresh statements]
  | compiled fresh compiled => simp [fresh statements]

variable (s)

/-! ## What is kept -/

/-- One more call adds what it comes to, and leaves what it leaves. -/
theorem serve_answer (demands : List Demand) (demand : Demand) :
    ∃ result left,
      s.serve (demands ++ [demand]) = ((s.serve demands).1 ++ [⟨demand, result⟩], left) ∧
      s.statements demand.around demand.dialect demand.anew (s.serve demands).2 = (result, left) ∧
      s.Answer demand (s.serve demands).2 result left := by
  have answer := s.statements_answer demand (s.serve demands).2
  rcases hcall : s.statements demand.around demand.dialect demand.anew (s.serve demands).2 with
    ⟨result, left⟩
  rw [hcall] at answer
  refine ⟨result, left, ?_, rfl, answer⟩
  rw [serve_snoc, serveNext, hcall]

/-- What is kept is what the last call gave, and nothing if it failed. -/
theorem serve_shelf (demands : List Demand) :
    (s.serve demands).2 = keptAfter (s.serve demands).1 := by
  cases demands using List.reverseRecOn with
  | nil => rfl
  | append_singleton demands demand _ =>
    obtain ⟨result, left, hserve, -, answer⟩ := s.serve_answer demands demand
    rw [hserve]
    cases answer with
    | kept found => simpa using found.kept
    | failed fresh failed => simp
    | compiled fresh compiled => simp

/-- The text of a script in surroundings: what the configuration says between its blanks, or the
whole text of the file that it names. -/
inductive SourceIn (config : ScriptConfig) (around : Surroundings) : String → Prop where
  | inline (unnamed : Text.trimmed config.path = "") (given : Text.trimmed config.sql ≠ "") :
      SourceIn config around (Text.trimmed config.sql)
  | file {text : String} (named : Text.trimmed config.path ≠ "")
      (read : around.readText (Text.trimmed config.path) = .ok text) : SourceIn config around text

/-- The text of a script when the latest call was made that was not answered from the shelf. -/
def LatestSource (config : ScriptConfig) (calls : List Served) (text : String) : Prop :=
  ∃ before call behind, calls = before ++ call :: behind ∧ ¬ call.FromShelf ∧
    (∀ later ∈ behind, later.FromShelf) ∧ SourceIn config call.demand.around text

/-- Why a call fails: the file cannot be read, there is no text, or the text does not compile. -/
inductive FailsIn (id : String) (config : ScriptConfig) (demand : Demand) : RelayError → Prop where
  | unreadable {cause : FileFault} (named : Text.trimmed config.path ≠ "")
      (unread : demand.around.readText (Text.trimmed config.path) = .error cause) :
      FailsIn id config demand (.file (Text.trimmed config.path) cause)
  | noSource (unnamed : Text.trimmed config.path = "") (blank : Text.trimmed config.sql = "") :
      FailsIn id config demand (.misconfigured (.emptyScript id))
  | uncompiled {text : String} {cause : CompileError}
      (source : SourceIn config demand.around text)
      (failed : compile id text.toList demand.dialect = .error cause) :
      FailsIn id config demand (.compile id cause)

section Configured

variable (id : String) (config : ScriptConfig)

/-- A script whose path is blank has no file. -/
theorem ofConfig_path_of_blank (unnamed : Text.trimmed config.path = "") :
    (ofConfig id config).path = none := by
  simp [ofConfig, unnamed]

/-- A script with a path has the file of that path. -/
theorem ofConfig_path_of_named (named : Text.trimmed config.path ≠ "") :
    (ofConfig id config).path = some (Text.trimmed config.path) := by
  simp [ofConfig, named]

/-- A script of a configuration has the text that its configuration says, or there is a reason why
it has none. -/
theorem source_ofConfig (demand : Demand) :
    (∃ text, (ofConfig id config).source demand.around = .ok text ∧
      SourceIn config demand.around text) ∨
    ∃ e, (ofConfig id config).source demand.around = .error e ∧ FailsIn id config demand e := by
  by_cases hpath : Text.trimmed config.path = ""
  · have hnone := ofConfig_path_of_blank id config hpath
    have hsource : (ofConfig id config).source demand.around =
        if (Text.trimmed config.sql).isEmpty then .error (.misconfigured (.emptyScript id))
        else .ok (Text.trimmed config.sql) := by
      rw [source, hnone]
      rfl
    rw [hsource]
    by_cases hsql : Text.trimmed config.sql = ""
    · exact .inr ⟨_, if_pos (by simp [hsql]), .noSource hpath hsql⟩
    · exact .inl ⟨_, if_neg (by simpa using hsql), .inline hpath hsql⟩
  · have hsome := ofConfig_path_of_named id config hpath
    cases hread : demand.around.readText (Text.trimmed config.path) with
    | ok text => exact .inl ⟨text, by simp [source, hsome, hread], .file hpath hread⟩
    | error cause => exact .inr ⟨_, by simp [source, hsome, hread], .unreadable hpath hread⟩

/-- A script of a configuration is compiled from its text, or there is a reason why not. -/
theorem compiled_ofConfig (demand : Demand) :
    (∃ text statements, SourceIn config demand.around text ∧
      compile id text.toList demand.dialect = .ok statements ∧
      (ofConfig id config).compiled demand.around demand.dialect = .ok statements) ∨
    ∃ e, (ofConfig id config).compiled demand.around demand.dialect = .error e ∧
      FailsIn id config demand e := by
  have hid : (ofConfig id config).id = id := rfl
  rcases source_ofConfig id config demand with ⟨text, hsource, source⟩ | ⟨e, hsource, fails⟩
  · cases hcompile : compile id text.toList demand.dialect with
    | ok statements =>
      exact .inl ⟨text, statements, source, hcompile, by simp [compiled, hsource, hid, hcompile]⟩
    | error cause =>
      exact .inr ⟨_, by simp [compiled, hsource, hid, hcompile], .uncompiled source hcompile⟩
  · exact .inr ⟨e, by simp [compiled, hsource], fails⟩

variable {id config}

/-- A call that fails does so for a reason. -/
theorem Answer.failsIn {demand : Demand} {shelf left : Shelf} {e : RelayError}
    (answer : (ofConfig id config).Answer demand shelf (.error e) left) :
    FailsIn id config demand e := by
  cases answer with
  | failed fresh failed =>
    rcases compiled_ofConfig id config demand with ⟨_, _, -, -, hcompiled⟩ | ⟨cause, hfailed, fails⟩
    · simp [hcompiled] at failed
    · obtain rfl := Except.error.inj (hfailed.symm.trans failed)
      exact fails

/-- A call that compiles anew makes its source the latest one. -/
theorem LatestSource.snoc_fresh {call : Served} {text : String} (calls : List Served)
    (fresh : ¬ call.FromShelf) (source : SourceIn config call.demand.around text) :
    LatestSource config (calls ++ [call]) text :=
  ⟨calls, call, [], rfl, fresh, by simp, source⟩

/-- A call that is served from the shelf leaves the latest source as it is. -/
theorem LatestSource.snoc_kept {calls : List Served} {call : Served} {text : String}
    (latest : LatestSource config calls text) (kept : call.FromShelf) :
    LatestSource config (calls ++ [call]) text := by
  obtain ⟨before, first, behind, rfl, fresh, later, source⟩ := latest
  refine ⟨before, first, behind ++ [call], by simp, fresh, ?_, source⟩
  intro other hother
  rcases List.mem_append.1 hother with hother | hother
  · exact later other hother
  · rw [List.mem_singleton.1 hother]
    exact kept

variable (id config)

/-- What is kept was compiled, for its dialect, from the text of the script when the latest call
was made that was not answered from the shelf. -/
theorem serve_sourced (demands : List Demand) (kept : Compiled)
    (found : ((ofConfig id config).serve demands).2 = some kept) :
    ∃ text, LatestSource config ((ofConfig id config).serve demands).1 text ∧
      compile id text.toList kept.dialect = .ok kept.statements := by
  induction demands using List.reverseRecOn generalizing kept with
  | nil => simp [serve] at found
  | append_singleton demands demand ih =>
    obtain ⟨result, left, hserve, -, answer⟩ := (ofConfig id config).serve_answer demands demand
    rw [hserve] at found ⊢
    cases answer with
    | kept finds =>
      obtain ⟨text, latest, hcompile⟩ := ih kept found
      exact ⟨text, latest.snoc_kept ⟨_, rfl⟩, hcompile⟩
    | failed fresh failed => simp at found
    | compiled fresh compiled =>
      obtain rfl := Option.some.inj found
      rcases compiled_ofConfig id config demand with
        ⟨text, statements, source, hcompile, hcompiled⟩ | ⟨e, hfailed, -⟩
      · obtain rfl := Except.ok.inj (hcompiled.symm.trans compiled)
        refine ⟨text, LatestSource.snoc_fresh _ ?_ source, hcompile⟩
        rintro ⟨_, hresult⟩
        simp at hresult
      · simp [hfailed] at compiled

/-- What the last call of a run comes to, for every script of a configuration and every run; a run
up to any of its calls is a run.

- The call gives the statements of the latest source for the dialect that it asks for, and these
  are kept; or it fails for a reason, and nothing is kept.
- It is answered from the shelf with some statements exactly if it does not ask for new ones and
  the call before went well, was for the same dialect and gave these statements.
- What is answered from the shelf would be the same in any other surroundings: no file is read. -/
theorem supplies_current_source (demands : List Demand) (demand : Demand) :
    ∃ calls shelf result left,
      (ofConfig id config).serve demands = (calls, shelf) ∧
      (ofConfig id config).serve (demands ++ [demand]) = (calls ++ [⟨demand, result⟩], left) ∧
      (∀ supply, result = .ok supply → left = some ⟨demand.dialect, supply.statements⟩ ∧
        ∃ text, LatestSource config (calls ++ [⟨demand, result⟩]) text ∧
          compile id text.toList demand.dialect = .ok supply.statements) ∧
      (∀ e, result = .error e → left = none ∧ FailsIn id config demand e) ∧
      (∀ statements, result = .ok ⟨statements, true⟩ ↔
        demand.anew = false ∧ LastGave calls demand.dialect statements) ∧
      (∀ statements, result = .ok ⟨statements, true⟩ → ∀ around,
        (ofConfig id config).statements around demand.dialect demand.anew shelf =
          (result, left)) := by
  obtain ⟨result, left, hnext, hcall, answer⟩ := (ofConfig id config).serve_answer demands demand
  have hkept := (ofConfig id config).serve_shelf demands
  rcases hrun : (ofConfig id config).serve demands with ⟨calls, shelf⟩
  rw [hrun] at hnext hcall answer hkept
  have hshelf : shelf = keptAfter calls := hkept
  have hleft : left = keptAfter (calls ++ [⟨demand, result⟩]) := by
    have hkept := (ofConfig id config).serve_shelf (demands ++ [demand])
    rwa [hnext] at hkept
  refine ⟨calls, shelf, result, left, rfl, hnext, ?_, ?_, ?_, ?_⟩
  · rintro supply rfl
    have hkept : left = some ⟨demand.dialect, supply.statements⟩ := by
      rw [hleft, keptAfter_snoc_ok]
    refine ⟨hkept, ?_⟩
    have sourced := serve_sourced id config (demands ++ [demand])
      ⟨demand.dialect, supply.statements⟩ (by rw [hnext, hkept])
    rwa [hnext] at sourced
  · rintro e rfl
    exact ⟨by rw [hleft, keptAfter_snoc_error], answer.failsIn⟩
  · intro statements
    rw [answer.kept_iff, ← keptAfter_eq_some_iff, ← hshelf]
    exact ⟨fun found => ⟨found.wanted, found.kept⟩, fun ⟨wanted, kept⟩ => ⟨wanted, kept⟩⟩
  · intro statements hresult around
    have found := (answer.kept_iff statements).1 hresult
    have hkept : left = shelf := by
      have hown := (ofConfig id config).statements_of_finds demand.around found
      rw [hcall] at hown
      exact congrArg Prod.snd hown
    rw [hresult, hkept]
    exact (ofConfig id config).statements_of_finds around found

end Configured
end Script
end SqlRelay
