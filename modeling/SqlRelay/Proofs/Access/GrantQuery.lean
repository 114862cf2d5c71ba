import SqlRelay.Proofs.Gateway.Effects
import SqlRelay.Proofs.Script.Splicing
import SqlRelay.Proofs.Script.TokenSlot
import SqlRelay.Proofs.Table.RowOrder
/-!
# The query for grants

The names of a table and its columns fill a query that ends in the slot for the token.  Names of
letters, digits, underscores and dots pass escaping and compilation as they are, so the compiled
text is the filled one.  Whatever the query is, the token is only ever an argument of it.

Main results:

- Definition `ManagedConfig.filled`: the query with the names as they are chosen.
- Theorem `ManagedConfig.template_eq_filled`: names of ordinary characters are not escaped.
- Theorem `ManagedGrants.load_filled`: what such names compile to.
- Theorem `ManagedGrants.query_without_token`: the queries that are sent for tokens.
-/

namespace SqlRelay

/-- The letters and digits of ASCII, the underscore and the dot. -/
def isNameChar (c : Char) : Bool :=
  c.isAlphanum || c == '_' || c == '.'

/-- Without its blanks at both ends a name is empty or has ordinary characters only. -/
def OrdinaryName (name : String) : Prop :=
  ∀ c ∈ (Text.trimmed name).toList, isNameChar c = true

/-- A name without the blanks at its ends, or a standard one if nothing is left of it. -/
def chosenName (name standard : String) : String :=
  if Text.trimmed name = "" then standard else Text.trimmed name

/-- A character of names is none of the others. -/
theorem ne_of_isNameChar {c d : Char} (h : isNameChar c = true) (hd : isNameChar d = false) :
    c ≠ d := by
  rintro rfl
  rw [h] at hd
  cases hd

/-- Ordinary characters are not escaped. -/
theorem escapeSql_of_isNameChar {s : String} (h : ∀ c ∈ s.toList, isNameChar c = true) :
    escapeSql s = s := by
  have hquotes : doubleQuotes s.toList = s.toList := by
    have hkept : ∀ c ∈ s.toList, (if c = '\'' then ['\'', '\''] else [c]) = [c] := by
      intro c hc
      exact if_neg (ne_of_isNameChar (h c hc) (by decide))
    calc
      doubleQuotes s.toList = s.toList.flatMap (fun c => [c]) := by
        rw [doubleQuotes, List.flatMap_def, List.flatMap_def, List.map_congr_left hkept]
      _ = s.toList := List.flatMap_singleton' _
  have hdashes : '-' ∉ s.toList := by
    intro hmem
    exact absurd (h '-' hmem) (by decide)
  rw [escapeSql, escapeChars, hquotes, dropDashPairs_of_not_mem _ hdashes, String.ofList_toList]

/-- Ordinary characters are no marks. -/
theorem inert_of_isNameChar {cs : List Char} (h : ∀ c ∈ cs, isNameChar c = true) : Inert cs := by
  induction cs with
  | nil => exact .nil
  | cons c cs ih =>
    rw [List.forall_mem_cons] at h
    have hother {d : Char} (hd : isNameChar d = false) : c ≠ d := ne_of_isNameChar h.1 hd
    have hquote : isQuote c = false := by
      simp [isQuote, hother (d := '\'') (by decide), hother (d := '"') (by decide),
        hother (d := '\x60') (by decide)]
    have hfirst : Inert [c] := by
      refine ⟨?_, ?_, ?_⟩
      · simp [Region.step, Region.enter, hquote, hother (d := '-') (by decide),
          hother (d := '/') (by decide)]
      · simp [Template.quoteAfter, quoteStep, hquote]
      · simp [hother (d := ';') (by decide), hother (d := '?') (by decide),
          hother (d := '\n') (by decide)]
    exact hfirst.append (ih h.2)

namespace ManagedConfig

/-! ## The filled query -/

/-- What stands before the token in the query, with the names as they are chosen. -/
def beforeToken (c : ManagedConfig) : List String :=
  ["SELECT ", chosenName c.targetDatabase "TARGET_DATABASE", " AS \"target_database\", ",
    chosenName c.targetObjects "TARGET_OBJECTS", " AS \"target_objects\", ",
    chosenName c.allowedOrigins "ALLOWED_ORIGINS", " AS \"allowed_origins\", ",
    chosenName c.read "READ_PRIVATE", " AS \"read_private\", ",
    chosenName c.write "WRITE_PRIVATE", " AS \"write_private\", ",
    chosenName c.exec "EXEC_PRIVATE", " AS \"exec_private\" FROM ",
    chosenName c.table "TOKENS", " WHERE ", chosenName c.token "TOKEN", "="]

/-- The query with a text in the place of the token. -/
def filled (c : ManagedConfig) (token : String) : String :=
  String.join c.beforeToken ++ token

/-- The statement that a filled query is in a dialect. -/
def grantStatement (c : ManagedConfig) (d : Dialect) : Statement where
  index := 0
  label := "0"
  sql := c.filled (String.ofList (d.placeholder 0))
  params := ["token"]
  isQuery := true
  isExported := true
  script := ManagedGrants.scriptName

/-- The query is made of names, and all of them are ordinary. -/
structure UsesNames (c : ManagedConfig) : Prop where
  noQuery : Text.trimmed c.query = ""
  noPath : Text.trimmed c.queryPath = ""
  ordinary : ∀ name ∈ c.configured, OrdinaryName name

variable {c : ManagedConfig}

/-- The standard names have ordinary characters. -/
theorem standards_ordinary :
    ∀ standard ∈ standards, ∀ c ∈ standard.toList, isNameChar c = true := by
  have hall : ∀ standard ∈ standards, standard.toList.all isNameChar = true := by decide
  intro standard hstandard
  exact List.all_eq_true.1 (hall standard hstandard)

/-- A chosen name is ordinary if the configured one and the standard one are. -/
theorem chosenName_ordinary {name standard : String} (h : OrdinaryName name)
    (hstandard : standard ∈ standards) :
    ∀ c ∈ (chosenName name standard).toList, isNameChar c = true := by
  unfold chosenName
  split
  · exact standards_ordinary standard hstandard
  · exact h

/-- An ordinary name is chosen and not escaped. -/
theorem nameOr_eq_chosenName {name standard : String} (h : OrdinaryName name)
    (hstandard : standard ∈ standards) : nameOr name standard = chosenName name standard := by
  have hescape := escapeSql_of_isNameChar (chosenName_ordinary h hstandard)
  rw [nameOr, ← hescape, chosenName]
  simp only [String.isEmpty_iff]

/-- The filled query is the one that the chosen names make. -/
theorem queryOf_chosen (c : ManagedConfig) :
    queryOf (c.names.map (fun name => chosenName name.1 name.2)) = c.filled "?token?" := by
  have hslot : "=?token?" = "=" ++ "?token?" := rfl
  simp only [queryOf, names, configured, standards, behindNames, filled, beforeToken,
    List.zip_cons_cons, List.zip_nil_left, List.map_cons, List.map_nil, List.foldl_cons,
    List.foldl_nil, hslot, String.join_cons, String.join_nil, String.append_empty]
  simp only [String.append_assoc]

/-- Names of ordinary characters fill the query as they are. -/
theorem template_eq_filled (h : ∀ name ∈ c.configured, OrdinaryName name) :
    c.template = c.filled "?token?" := by
  have hnames : c.names.map (fun name => nameOr name.1 name.2) =
      c.names.map (fun name => chosenName name.1 name.2) := by
    apply List.map_congr_left
    intro name hname
    obtain ⟨hconfigured, hstandard⟩ := List.of_mem_zip hname
    exact nameOr_eq_chosenName (h _ hconfigured) hstandard
  rw [template_eq, hnames, queryOf_chosen]

/-- What stands in the query besides names is no mark. -/
theorem inert_fixed : ∀ part ∈ ["SELECT ", " AS \"target_database\", ", " AS \"target_objects\", ",
    " AS \"allowed_origins\", ", " AS \"read_private\", ", " AS \"write_private\", ",
    " AS \"exec_private\" FROM ", " WHERE ", "="], Inert part.toList := by
  simp only [List.forall_mem_cons]
  refine ⟨?_, ?_, ?_, ?_, ?_, ?_, ?_, ?_, ?_, by simp⟩ <;>
    exact .of_all (by decide) (by decide) (by decide)

/-- Nothing before the token is a mark. -/
theorem inert_beforeToken (h : ∀ name ∈ c.configured, OrdinaryName name) :
    Inert (String.join c.beforeToken).toList := by
  have hfixed := inert_fixed
  have hnames : ∀ name ∈ c.names, Inert (chosenName name.1 name.2).toList := by
    intro name hname
    obtain ⟨hconfigured, hstandard⟩ := List.of_mem_zip hname
    exact inert_of_isNameChar (chosenName_ordinary (h _ hconfigured) hstandard)
  simp only [names, configured, standards, List.zip_cons_cons, List.zip_nil_left,
    List.forall_mem_cons] at hnames hfixed
  rw [String.toList_join, List.flatMap_def]
  apply Inert.flatten
  simp only [beforeToken, List.map_cons, List.map_nil, List.forall_mem_cons]
  simp only [hnames, hfixed]
  simp

/-- The query of names compiles to the filled one, with the placeholder of its dialect. -/
theorem compile_template (h : ∀ name ∈ c.configured, OrdinaryName name) (d : Dialect) :
    compile ManagedGrants.scriptName c.template.toList d = .ok [c.grantStatement d] := by
  have hbegins : (String.join c.beforeToken).toList =
      selectWord ++ (String.join c.beforeToken.tail).toList := by
    rw [beforeToken, String.join_cons, String.toList_append]
    rfl
  have htext : c.template.toList = (String.join c.beforeToken).toList ++ Template.tokenSlot := by
    rw [template_eq_filled h, filled, String.toList_append]
    rfl
  have hsql : String.ofList ((String.join c.beforeToken).toList ++ d.placeholder 0) =
      c.filled (String.ofList (d.placeholder 0)) := by
    rw [filled, String.ofList_append, String.ofList_toList]
  rw [htext, compile_select_slot _ d (inert_beforeToken h) hbegins, hsql]
  rfl

end ManagedConfig

namespace ManagedGrants

variable {around : Surroundings} {c : ManagedConfig} {db : Database} {m : ManagedGrants}

/-- What ordinary names compile to. -/
theorem load_filled (h : c.UsesNames) :
    load around c db = .ok ⟨db, c.grantStatement db.dialect⟩ := by
  have htext : c.queryText around = .ok c.template := by
    simp [ManagedConfig.queryText, h.noQuery, h.noPath]
  rw [load, htext]
  simp only [ManagedConfig.compile_template h.ordinary]

/-! ## Queries for tokens -/

/-- Where the database is open, one query is sent, whatever the answer. -/
theorem grants_visits_of_open {s : Session} (opened : m.database.id ∈ s.opened) (token : String) :
    (m.grants around token s).2.visits =
      s.visits ++ [⟨m.database.id, m.tokenQuery token⟩] := by
  simp only [grants, Action.bind_apply, m.database.ensureOpen_of_mem around s opened,
    Session.fetch_eq]
  cases (nextReply (s.turnTo m.database.id).replies).decoded <;> simp [Session.turnTo, tokenQuery]

/-- A query of ordinary names compiles to one statement: the filled query with the placeholder of
the dialect, whose one argument is the token.  Whatever the query is, for each token it is sent
once, with the same text and with one copy of the token for each recorded parameter. -/
theorem query_without_token (around : Surroundings) (db : Database) :
    (∀ c : ManagedConfig, c.UsesNames →
      compile scriptName c.template.toList db.dialect = .ok [c.grantStatement db.dialect] ∧
      load around c db = .ok ⟨db, c.grantStatement db.dialect⟩) ∧
    ∀ (c : ManagedConfig) (m : ManagedGrants), load around c db = .ok m →
      ∀ s : Session, db.id ∈ s.opened → ∀ token,
        (m.grants around token s).2.visits = s.visits ++
          [⟨db.id, .query m.statement.sql
            (List.replicate m.statement.params.length (.text token))⟩] := by
  constructor
  · intro c h
    exact ⟨ManagedConfig.compile_template h.ordinary db.dialect, load_filled h⟩
  · intro c m loaded s opened token
    obtain rfl := database_of_load loaded
    rw [grants_visits_of_open opened, tokenQuery, List.map_const']

/-- A table of a schema, and a column of tokens whose name has blanks around it. -/
def schemaNames : ManagedConfig :=
  ⟨"db", "auth.grants", "", "", " token_2 ", "", "", "", "", "", ""⟩

/-- A session in which the database is open. -/
def openSession : Session :=
  { Session.start with opened := ["db"] }

/-- The names fill the query, and the token of a request is its argument. -/
theorem schemaNames_query :
    schemaNames.UsesNames ∧
    load ⟨[], []⟩ schemaNames ⟨"db", .oracle, ""⟩ =
      .ok ⟨⟨"db", .oracle, ""⟩, schemaNames.grantStatement .oracle⟩ ∧
    (schemaNames.grantStatement .oracle).sql =
      "SELECT TARGET_DATABASE AS \"target_database\", TARGET_OBJECTS AS \"target_objects\", " ++
        "ALLOWED_ORIGINS AS \"allowed_origins\", READ_PRIVATE AS \"read_private\", " ++
        "WRITE_PRIVATE AS \"write_private\", EXEC_PRIVATE AS \"exec_private\" " ++
        "FROM auth.grants WHERE token_2=:1" ∧
    (grants ⟨⟨"db", .oracle, ""⟩, schemaNames.grantStatement .oracle⟩ ⟨[], []⟩ "'k'"
        openSession).2.visits =
      [⟨"db", .query (schemaNames.grantStatement .oracle).sql [.text "'k'"]⟩] := by
  have names : schemaNames.UsesNames := by
    refine ⟨by decide, by decide, ?_⟩
    have hall : ∀ name ∈ schemaNames.configured,
        (Text.trimmed name).toList.all isNameChar = true := by
      decide
    intro name hname
    exact List.all_eq_true.1 (hall name hname)
  obtain ⟨hnames, hsent⟩ := query_without_token ⟨[], []⟩ ⟨"db", .oracle, ""⟩
  obtain ⟨-, loaded⟩ := hnames schemaNames names
  exact ⟨names, loaded, by decide +kernel, hsent schemaNames _ loaded openSession (by decide) "'k'"⟩

end ManagedGrants
end SqlRelay
