import SqlRelay.Proofs.Http.Effects
/-!
# Private objects are concealed

Two relays are compared whose configurations differ in one object: the one holds it and keeps it
private, the other does not have it.  A caller whose token has no grant for the object cannot tell
the two apart by the status of an answer or by the category of an error.

The wording of a refusal does differ: it says of a missing object that it was not found.

Main results:

- Definition `Configuration.without` takes an object out of a configuration.
- Definition `Gateway.Ungranted` says that the grants of a token are known and do not help.
- Theorem `Gateway.authorize_of_denied`: whatever keeps a request from an object, its refusal has
  the category of the database.
- Theorem `Service.privateObject_is_concealed` compares the two relays.
-/

namespace SqlRelay

/-- What an operation is done to. -/
inductive ObjectKind where
  | table
  | script
  deriving DecidableEq, Repr

/-- Scripts are executed, and tables are read and written. -/
def Operation.objectKind : Operation → ObjectKind
  | .read | .write => .table
  | .exec => .script

namespace Configuration

/-- Takes an object out of a configuration. -/
def without (config : Configuration) (kind : ObjectKind) (id : String) : Configuration :=
  match kind with
  | .table => { config with tables := config.tables.erase id }
  | .script => { config with scripts := config.scripts.erase id }

@[simp]
theorem without_web (config : Configuration) (kind : ObjectKind) (id : String) :
    (config.without kind id).web = config.web := by
  cases kind <;> rfl

/-- A configuration has an object that is not public for an operation. -/
inductive KeepsPrivate (config : Configuration) (id : String) : Operation → Prop where
  | reading {t : TableConfig} (found : config.tables.get? id = some t)
      (unread : t.publicRead = false) : KeepsPrivate config id .read
  | writing {t : TableConfig} (found : config.tables.get? id = some t)
      (unwritten : t.publicWrite = false) : KeepsPrivate config id .write
  | executing {s : ScriptConfig} (found : config.scripts.get? id = some s)
      (unexecuted : s.publicExec = false) : KeepsPrivate config id .exec

end Configuration

namespace Gateway

/-- Takes an object out of a gateway. -/
def without (g : Gateway) (kind : ObjectKind) (id : String) : Gateway :=
  match kind with
  | .table => { g with tables := g.tables.erase id }
  | .script => { g with scripts := g.scripts.erase id }

@[simp]
theorem without_databases (g : Gateway) (kind : ObjectKind) (id : String) :
    (g.without kind id).databases = g.databases := by
  cases kind <;> rfl

@[simp]
theorem without_caching (g : Gateway) (kind : ObjectKind) (id : String) :
    (g.without kind id).caching = g.caching := by
  cases kind <;> rfl

/-- A value is taken out before or after all are changed. -/
theorem mapNamed_erase {α β : Type} (f : String → α → β) (fields : Fields α) (name : String) :
    mapNamed f (fields.erase name) = (mapNamed f fields).erase name := by
  simp only [mapNamed, Fields.erase, List.filter_map]
  rfl

/-- The gateway of a configuration without an object is the gateway without the object. -/
theorem ofConfig_without (around : Surroundings) (config : Configuration) (recompile : Bool)
    (kind : ObjectKind) (id : String) :
    ofConfig around (config.without kind id) recompile =
      (ofConfig around config recompile).map (·.without kind id) := by
  cases kind with
  | table =>
    simp only [ofConfig, Configuration.without, mapNamed_erase]
    split <;> rfl
  | script =>
    simp only [ofConfig, Configuration.without, mapNamed_erase]
    split <;> rfl

/-! ## Requests for the object -/

variable {g : Gateway}

/-- The tables and scripts of a gateway are those of its configuration. -/
theorem ofConfig_objects {around₀ : Surroundings} {config : Configuration} {recompile : Bool}
    (built : ofConfig around₀ config recompile = .ok g) :
    g.tables = mapNamed Table.ofConfig config.tables ∧
      g.scripts = mapNamed Script.ofConfig config.scripts := by
  unfold ofConfig at built
  dsimp only at built
  split at built
  · simp at built
  · obtain rfl := Except.ok.inj built
    exact ⟨rfl, rfl⟩

/-- An object that the configuration keeps private is reached, if at all, as one that is not
public. -/
theorem reaches_of_keepsPrivate {around₀ : Surroundings} {config : Configuration}
    {recompile : Bool} (built : ofConfig around₀ config recompile = .ok g) {r : AccessRequest}
    (kept : config.KeepsPrivate r.object r.operation) {isPublic : Bool}
    (reaches : g.Reaches r isPublic) : isPublic = false := by
  obtain ⟨htables, hscripts⟩ := ofConfig_objects built
  obtain ⟨owner, addressed, -⟩ := reaches
  generalize hoperation : r.operation = operation at kept
  cases addressed with
  | script exec found =>
    rw [hoperation] at exec
    subst exec
    cases kept with
    | executing configured unexecuted =>
      rw [hscripts, get?_mapNamed, configured] at found
      exact Option.some.inj found ▸ unexecuted
  | reading read found =>
    rw [hoperation] at read
    subst read
    cases kept with
    | reading configured unread =>
      rw [htables, get?_mapNamed, configured] at found
      exact Option.some.inj found ▸ unread
  | writing write found =>
    rw [hoperation] at write
    subst write
    cases kept with
    | writing configured unwritten =>
      rw [htables, get?_mapNamed, configured] at found
      exact Option.some.inj found ▸ unwritten

/-- An object that was taken out is not reached. -/
theorem not_reaches_without (r : AccessRequest) :
    ¬ ∃ isPublic, (g.without r.operation.objectKind r.object).Reaches r isPublic := by
  rintro ⟨isPublic, owner, addressed, -⟩
  cases addressed with
  | script operation found | reading operation found | writing operation found =>
    simp [operation, Operation.objectKind, without] at found

/-- Taking out an object of one kind is nothing to an operation on the other kind. -/
theorem authorize_without {kind : ObjectKind} (id : String) (around : Surroundings)
    {r : AccessRequest} (other : r.operation.objectKind ≠ kind) :
    (g.without kind id).authorize around r = g.authorize around r := by
  have hdatabase : (g.without kind id).database = g.database := by
    cases kind <;> rfl
  have hauthorizer : (g.without kind id).authorizer around = g.authorizer around := by
    cases kind <;> rfl
  have hpublicity : (g.without kind id).publicity r = g.publicity r := by
    unfold publicity
    cases hoperation : r.operation with
    | exec =>
      cases kind with
      | table => rfl
      | script => exact absurd (by rw [hoperation]; rfl) other
    | read | write =>
      cases kind with
      | table => exact absurd (by rw [hoperation]; rfl) other
      | script => rfl
  unfold authorize
  rw [hdatabase, hauthorizer, hpublicity]

/-- What is found for the token of a request is known, and none of it covers the request; without a
token there is nothing to be found. -/
def Ungranted (g : Gateway) (around : Surroundings) (s : GatewayState) (r : AccessRequest) : Prop :=
  r.token = "" ∨
    ∃ grants, g.Resolves around s r.token grants ∧ ∀ grant ∈ grants, ¬ grant.Covers r

/-- The category of every refusal in a database. -/
def refusalCategory (g : Gateway) (database : String) : Category :=
  if (g.databases.get? database).isSome then .unauthorized else .notFound

/-- A token whose grants do not help is refused. -/
theorem check_of_ungranted (around : Surroundings) {r : AccessRequest} {s : GatewayState}
    (ungranted : g.Ungranted around s r) :
    ∃ why, ((g.authorizer around).check r s.access).1 = .error (.refused why) := by
  rw [Authorizer.check_fst]
  rcases ungranted with noToken | ⟨grants, resolves, uncovered⟩
  · exact ⟨_, if_pos noToken⟩
  · split
    · exact ⟨_, rfl⟩
    · rw [(g.resolves_iff around s _ _).1 resolves]
      cases hjudged : judgeFound grants r with
      | error e =>
        obtain ⟨why, rfl⟩ := judgeFound_error hjudged
        exact ⟨why, hjudged⟩
      | ok =>
        obtain ⟨grant, hmem, hcovers⟩ := (judgeFound_eq_ok_iff grants r).1 hjudged
        exact absurd hcovers (uncovered grant hmem)

/-- Whether an object is missing, hidden or private, a request that no grant covers is refused with
the category of its database. -/
theorem authorize_of_denied (around : Surroundings) {r : AccessRequest} {s : GatewayState}
    (notPublic : ¬ g.Reaches r true)
    (denied : (∃ isPublic, g.Reaches r isPublic) → g.Ungranted around s r) :
    ∃ e, (g.authorize around r s).1 = .error e ∧ e.category = g.refusalCategory r.database := by
  rcases g.authorize_cases around r s with
    ⟨unconfigured, h⟩ | ⟨⟨db, configured⟩, hobject⟩
  · refine ⟨.missing (.database r.database), by rw [h], ?_⟩
    simp [refusalCategory, unconfigured, RelayError.category]
  · have hcategory : ∀ why, (RelayError.refused why).category = g.refusalCategory r.database := by
      intro why
      simp [refusalCategory, configured, RelayError.category]
    rcases hobject with ⟨why, -, h⟩ | ⟨reaches, -⟩ | ⟨reaches, h⟩
    · exact ⟨.refused why, by rw [h], hcategory why⟩
    · exact absurd reaches notPublic
    · obtain ⟨why, hcheck⟩ := check_of_ungranted around (denied ⟨false, reaches⟩)
      exact ⟨.refused why, by rw [h, onAccess, Action.inside_apply, hcheck], hcategory why⟩

end Gateway

/-! ## How requests end -/

/-- The category of an error of the relay. -/
def RequestError.category? : RequestError → Option Category
  | .relay cause => some cause.category
  | _ => none

namespace Service

/-- How a request ends: with the status of a response, or with an error of a status and perhaps of a
category. -/
def ending (s : Service) (around : Surroundings) (r : Request) (state : GatewayState) :
    Except (Status × Option Category) Status :=
  match (s.handle around r state).1 with
  | .ok response => .ok response.status
  | .error e => .error (e.status, e.category?)

/-- The status of an answer that ends in a way. -/
def endingStatus : Except (Status × Option Category) Status → Status
  | .ok status => status
  | .error (status, _) => status

variable (s : Service) (around : Surroundings) (r : Request) (state : GatewayState)

/-- The status of a response is the one with which its request ends. -/
theorem dispatch_status :
    (s.dispatch around r state).1.status = endingStatus (s.ending around r state) := by
  unfold dispatch ending
  split <;> rename_i h <;> rw [h] <;> rfl

/-- The status of an answer is that of the health check, or the one with which its request ends. -/
theorem routed_status :
    (s.routed around r state).1.status =
      if r.uri.path = healthPath then (health r.method).status
      else endingStatus (s.ending around r state) := by
  simp only [routed, withExtraHeaders, beq_iff_eq]
  split
  · rfl
  · exact s.dispatch_status around r state

/-- What stands around the relay decides by the request alone which endings it lets through. -/
theorem answer_status :
    (s.answer around r state).1.status =
      if s.cors = true ∧ r.method = "OPTIONS" then .ok
      else if r.uri.path = healthPath then (health r.method).status
      else endingStatus (s.ending around r state) := by
  by_cases hcors : s.cors = true
  · by_cases hmethod : r.method = "OPTIONS"
    · simp [answer, hcors, hmethod, preflight]
    · simp only [answer, hcors, hmethod, beq_iff_eq, if_true, if_false, and_false]
      exact s.routed_status around r state
  · simp only [answer, hcors, Bool.false_eq_true, if_false, false_and]
    exact s.routed_status around r state

/-! ## The relay with the object and the one without -/

/-- Takes an object out of a service. -/
def without (s : Service) (kind : ObjectKind) (id : String) : Service :=
  { s with gateway := s.gateway.without kind id }

variable {s around r state}

theorem ending_of_options (method : r.method = "OPTIONS") :
    s.ending around r state = .ok .ok := by
  simp only [ending, s.handle_of_options around r state method]
  rfl

theorem ending_of_clears (clears : s.ClearsToken r) : s.ending around r state = .ok .ok := by
  simp only [ending, s.handle_of_clears around r state clears]
  rfl

/-- A request that asks for no call ends with the error that says so. -/
theorem ending_of_no_call (asks : s.AsksForCall r) {e : RequestError}
    (none : callOf r.method r.objectPath.key = .error e) :
    s.ending around r state = .error (e.status, e.category?) := by
  simp only [ending, handle_of_asks asks, none]

/-- A refused call ends as the category of the refusal says. -/
theorem ending_of_refused (asks : s.AsksForCall r) {call : Call}
    (called : callOf r.method r.objectPath.key = .ok call) {e : RelayError}
    (refused : (s.gateway.authorize around (r.access r.objectPath call.operation) state).1 =
      .error e) :
    s.ending around r state = .error ((RequestError.relay e).status, some e.category) := by
  rcases hauthorize : s.gateway.authorize around (r.access r.objectPath call.operation) state with
    ⟨outcome, t⟩
  obtain rfl : outcome = .error e := by rwa [hauthorize] at refused
  simp only [ending, handle_of_asks asks, called, hauthorize, RequestError.category?]

/-- What is done to an object of one kind is the same without an object of the other kind. -/
theorem carryOut_without {kind : ObjectKind} (id : String) {call : Call}
    (other : call.operation.objectKind ≠ kind) (path : ObjectPath) (ps : Parameters) :
    (s.without kind id).carryOut around r path call ps = s.carryOut around r path call ps := by
  cases call with
  | script =>
    cases kind with
    | table => rfl
    | script => exact absurd rfl other
  | table action =>
    cases kind with
    | table => cases action <;> exact absurd rfl other
    | script => rfl

/-- Taking an object out does not change which requests ask for a call. -/
theorem without_asksForCall (kind : ObjectKind) (id : String) (asks : s.AsksForCall r) :
    (s.without kind id).AsksForCall r where
  method := asks.method
  keeps clears := asks.keeps
    { clears with caching := (s.gateway.without_caching kind id).symm.trans clears.caching }

/-- A call that is denied at a private object is denied in the same way where there is no such
object, whatever has happened there before. -/
theorem ending_of_denied (asks : s.AsksForCall r) {call : Call}
    (called : callOf r.method r.objectPath.key = .ok call)
    (notPublic : ¬ s.gateway.Reaches (r.access r.objectPath call.operation) true)
    (ungranted : s.gateway.Ungranted around state (r.access r.objectPath call.operation))
    (state' : GatewayState) :
    (s.without call.operation.objectKind r.objectPath.object).ending around r state' =
      s.ending around r state := by
  have hidden : ¬ ∃ isPublic,
      (s.gateway.without call.operation.objectKind r.objectPath.object).Reaches
        (r.access r.objectPath call.operation) isPublic :=
    Gateway.not_reaches_without (r.access r.objectPath call.operation)
  obtain ⟨e, refused, hcategory⟩ :=
    Gateway.authorize_of_denied around notPublic (fun _ => ungranted)
  obtain ⟨e', refused', hcategory'⟩ :=
    Gateway.authorize_of_denied (s := state') around (fun reaches => hidden ⟨true, reaches⟩)
      (fun reached => absurd reached hidden)
  have hsame : e'.category = e.category := by
    rw [hcategory, hcategory', Gateway.refusalCategory, Gateway.refusalCategory,
      Gateway.without_databases]
  rw [ending_of_refused asks called refused,
    ending_of_refused (without_asksForCall _ _ asks) called refused']
  simp only [RequestError.status, hsame]

/-- A call on an object of one kind ends in the same way without an object of the other kind. -/
theorem ending_of_other_kind (asks : s.AsksForCall r) {call : Call}
    (called : callOf r.method r.objectPath.key = .ok call) {kind : ObjectKind}
    (other : call.operation.objectKind ≠ kind) (id : String) :
    (s.without kind id).ending around r state = s.ending around r state := by
  have hauthorize : (s.gateway.without kind id).authorize around
      (r.access r.objectPath call.operation) =
        s.gateway.authorize around (r.access r.objectPath call.operation) :=
    Gateway.authorize_without id around other
  have hhandle : (s.without kind id).handle around r state = s.handle around r state := by
    rw [handle_of_asks asks, handle_of_asks (without_asksForCall kind id asks)]
    simp only [called, carryOut_without id other]
    rw [show (s.without kind id).gateway = s.gateway.without kind id from rfl, hauthorize]
    rfl
  unfold ending
  rw [hhandle]

/-- A private object is concealed: take a configuration, and the same configuration without one
object.  Both give a relay, and for every request for that object the two relays answer with the
same status, and with an error of the same category or with none, provided that

- the object is not public for what the request asks to do with it,
- the token of the request is empty or its grants are known and none of them covers the request,
- the two relays are in the same state where the request is for an object of the other kind that
  has the same name; else each may be in any state. -/
theorem privateObject_is_concealed {around₀ : Surroundings} {config : Configuration}
    {recompile : Bool} {g : Gateway}
    (built : Gateway.ofConfig around₀ config recompile = .ok g) (kind : ObjectKind)
    (object : String) :
    ∃ g', Gateway.ofConfig around₀ (config.without kind object) recompile = .ok g' ∧
      ∀ (bodyLimit : Nat) (around : Surroundings) (r : Request) (state state' : GatewayState),
        r.objectPath.object = object →
        (∀ call, callOf r.method r.objectPath.key = .ok call →
          g.Ungranted around state (r.access r.objectPath call.operation) ∧
          (call.operation.objectKind = kind → config.KeepsPrivate object call.operation) ∧
          (call.operation.objectKind ≠ kind → state' = state)) →
        (ofConfig g' bodyLimit (config.without kind object).web).ending around r state' =
          (ofConfig g bodyLimit config.web).ending around r state ∧
        ((ofConfig g' bodyLimit (config.without kind object).web).answer around r state').1.status =
          ((ofConfig g bodyLimit config.web).answer around r state).1.status := by
  refine ⟨g.without kind object, by rw [Gateway.ofConfig_without, built]; rfl, ?_⟩
  intro bodyLimit around r state state' addressed denied
  have hservice : ofConfig (g.without kind object) bodyLimit (config.without kind object).web =
      (ofConfig g bodyLimit config.web).without kind object := by
    rw [config.without_web]
    rfl
  rw [hservice]
  generalize hs : ofConfig g bodyLimit config.web = s
  obtain rfl : g = s.gateway := by rw [← hs]; rfl
  have hending : (s.without kind object).ending around r state' = s.ending around r state := by
    by_cases method : r.method = "OPTIONS"
    · rw [ending_of_options method, ending_of_options method]
    · by_cases clears : s.ClearsToken r
      · have clears' : (s.without kind object).ClearsToken r :=
          { clears with caching := (s.gateway.without_caching kind object).trans clears.caching }
        rw [ending_of_clears clears, ending_of_clears clears']
      · have asks : s.AsksForCall r := ⟨method, clears⟩
        cases called : callOf r.method r.objectPath.key with
        | error e =>
          rw [ending_of_no_call asks called,
            ending_of_no_call (without_asksForCall kind object asks) called]
        | ok call =>
          obtain ⟨ungranted, kept, same⟩ := denied call called
          by_cases hkind : call.operation.objectKind = kind
          · subst hkind addressed
            apply ending_of_denied asks called ?_ ungranted state'
            intro reaches
            have := Gateway.reaches_of_keepsPrivate built (kept rfl) reaches
            simp at this
          · obtain rfl := same hkind
            exact ending_of_other_kind asks called hkind object
  refine ⟨hending, ?_⟩
  rw [answer_status, answer_status, hending]
  rfl

/-- A private table and a token that may read another one. -/
def vaultConfig : Configuration where
  web := ⟨none, true, []⟩
  databases := [("db", ⟨"sqlite", "sqlite://db", standardConnections⟩)]
  tables := [("vault", ⟨"db", "", standardPrimaryKey, [], false, false, 0, "", false⟩)]
  scripts := []
  tokens := [("key", [⟨"db", ["hall"], [], true, false, false⟩])]
  managed := none
  cacheTokens := true
  pageSize := 0

/-- The gateway of that configuration. -/
def vaultGateway : Gateway where
  databases := [("db", ⟨"db", .sqlite, "sqlite://db"⟩)]
  tables := [("vault", Table.ofConfig "vault"
    ⟨"db", "", standardPrimaryKey, [], false, false, 0, "", false⟩)]
  scripts := []
  tokens := [("key", [⟨"db", ["hall"], [], true, false, false⟩])]
  managed := none
  caching := true
  pageSize := 0
  recompile := false

/-- A request to read the table with the token. -/
def vaultRequest : Request :=
  ⟨"GET", ⟨none, "/db/vault", none⟩, [("authorization", Utf8.encode "Bearer key")], [], none⟩

/-- Reading the table is unauthorized, whether there is such a table or not. -/
theorem vault_is_concealed :
    Gateway.ofConfig ⟨[], []⟩ vaultConfig false = .ok vaultGateway ∧
    ∃ g', Gateway.ofConfig ⟨[], []⟩ (vaultConfig.without .table "vault") false = .ok g' ∧
      (ofConfig g' 1024 (vaultConfig.without .table "vault").web).ending ⟨[], []⟩ vaultRequest
        .start = .error (.unauthorized, some .unauthorized) ∧
      ((ofConfig g' 1024 (vaultConfig.without .table "vault").web).answer ⟨[], []⟩ vaultRequest
        .start).1.status = .unauthorized := by
  have built : Gateway.ofConfig ⟨[], []⟩ vaultConfig false = .ok vaultGateway := rfl
  obtain ⟨g', built', concealed⟩ := privateObject_is_concealed built .table "vault"
  have present : ((ofConfig vaultGateway 1024 vaultConfig.web).ending ⟨[], []⟩ vaultRequest .start =
      .error (.unauthorized, some .unauthorized)) ∧
      ((ofConfig vaultGateway 1024 vaultConfig.web).answer ⟨[], []⟩ vaultRequest
        .start).1.status = .unauthorized := by
    decide +kernel
  refine ⟨built, g', built', ?_⟩
  have same := concealed 1024 ⟨[], []⟩ vaultRequest .start .start (by decide +kernel) ?_
  · exact ⟨same.1.trans present.1, same.2.trans present.2⟩
  · intro call called
    have hcall : callOf vaultRequest.method vaultRequest.objectPath.key = .ok (.table .list) := by
      decide +kernel
    obtain rfl : Call.table .list = call := Except.ok.inj (hcall.symm.trans called)
    have uncovered : ∀ grant ∈ (vaultGateway.tokens.get?
        (vaultRequest.access vaultRequest.objectPath .read).token).getD [],
          grant.covers (vaultRequest.access vaultRequest.objectPath .read) = false := by
      decide +kernel
    refine ⟨.inr ⟨_, .fixed rfl rfl, ?_⟩, fun _ => .reading rfl rfl, fun other => absurd rfl other⟩
    intro grant hmem hcovers
    have hcovered := (grant.covers_iff _).2 hcovers
    rw [show (Call.table .list).operation = .read from rfl, uncovered grant hmem] at hcovered
    exact Bool.false_ne_true hcovered

end Service
end SqlRelay
