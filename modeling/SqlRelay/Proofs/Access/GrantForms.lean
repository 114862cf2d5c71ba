import Mathlib.Data.List.Perm.Basic
import SqlRelay.Access.Managed
import SqlRelay.Proofs.Configuration.Records
import SqlRelay.Proofs.Fields
import SqlRelay.Proofs.Json.Documents
import SqlRelay.Proofs.Text.Words
/-!
# The forms of a grant

A grant comes from a configuration, from its own JSON form or from the row of a table.  In a
configuration its lists are lists of texts or texts with blanks between the words; in a row they are
texts, and each flag is written in one of several ways.

Main results:

- Definition `Grant.ConfiguredBy`: the members of an object give a grant.
- Definition `Grant.StoredIn`: the columns of a row give a grant.
- Theorem `Grant.forms_agree`: all forms of a grant are read as the same grant.
-/

namespace SqlRelay

open Json (Tree TextUnit readText? units)

/-- A tree is a text. -/
inductive IsText (s : String) : Tree → Prop
  | intro {units : List TextUnit} (read : readText? units = some s) : IsText s (.text units)

/-- A field gives some words, as a list of texts or as one text with blanks between them.  It may be
left out if there are none. -/
inductive GivesWords : List String → Option Tree → Prop
  | list {words : List String} {trees : List Tree} (items : List.Forall₂ IsText words trees) :
      GivesWords words (some (.array trees))
  | joined {words : List String} {s : String} {t : Tree} (text : IsText s t)
      (spaced : Text.Spaced words s.toList) : GivesWords words (some t)
  | leftOut : GivesWords [] none

/-- A field gives a flag.  It may be left out if the flag is off. -/
inductive GivesFlag : Bool → Option Tree → Prop
  | given (b : Bool) : GivesFlag b (some (.bool b))
  | leftOut : GivesFlag false none

/-- A text is read as the text it gives. -/
theorem IsText.read {s : String} {t : Tree} (h : IsText s t) : TreeReader.text t = some s := by
  obtain ⟨read⟩ := h
  exact read

/-- A field that gives words is read as these words, listed or in one text. -/
theorem GivesWords.read {words : List String} {field : Option Tree} (h : GivesWords words field)
    (proper : ∀ word ∈ words, Text.IsWord word) :
    orElse [] TreeReader.wordsOrList field = some words := by
  cases h with
  | @list _ trees items =>
    have hitems : trees.mapM TreeReader.text = some words := by
      clear proper
      induction items with
      | nil => rfl
      | cons item _ ih => simp [item.read, ih]
    exact hitems
  | joined text spaced =>
    obtain ⟨read⟩ := text
    simp [orElse, TreeReader.wordsOrList, read, Text.fieldsOf_of_spaced spaced proper]
  | leftOut => rfl

/-- A field that gives a flag is read as it. -/
theorem GivesFlag.read {b : Bool} {field : Option Tree} (h : GivesFlag b field) :
    optionalFlag field = some b := by
  cases h <;> rfl

/-- A column gives some words as one text with blanks between them.  It may be null or absent if
there are none. -/
inductive StoresWords : List String → Option Json → Prop
  | joined {words : List String} {s : String} (spaced : Text.Spaced words s.toList) :
      StoresWords words (some (.text s))
  | null : StoresWords [] (some .null)
  | absent : StoresWords [] none

/-- The texts that turn a flag on. -/
def onTexts : List String := ["true", "1", "yes"]

/-- A column gives a flag.  It may be null or absent if the flag is off. -/
inductive StoresFlag : Bool → Option Json → Prop
  | bool (b : Bool) : StoresFlag b (some (.bool b))
  | one : StoresFlag true (some (.int 1))
  | zero : StoresFlag false (some (.int 0))
  | doubleOne : StoresFlag true (some (.double Double.one))
  | doubleZero (negative : Bool) : StoresFlag false (some (.double (Double.zero negative)))
  | on {s : String} (h : s ∈ onTexts) : StoresFlag true (some (.text s))
  | off {s : String} (h : s ∉ onTexts) : StoresFlag false (some (.text s))
  | null : StoresFlag false (some .null)
  | absent : StoresFlag false none

/-- A column that stores words is read as these words. -/
theorem StoresWords.read {words : List String} {row : JsonRow} {name : String}
    (h : StoresWords words (row.get? name)) (proper : ∀ word ∈ words, Text.IsWord word) :
    Text.fieldsOf (Grant.textOf row name) = words := by
  unfold Grant.textOf
  generalize row.get? name = column at h
  cases h with
  | joined spaced => exact Text.fieldsOf_of_spaced spaced proper
  | null => rfl
  | absent => rfl

/-- A column that stores a flag is read as it. -/
theorem StoresFlag.read {b : Bool} {row : JsonRow} {name : String}
    (h : StoresFlag b (row.get? name)) : Grant.flagOf row name = b := by
  unfold Grant.flagOf
  generalize row.get? name = column at h
  cases h with
  | bool => rfl
  | one => rfl
  | zero => rfl
  | doubleOne => rfl
  | doubleZero negative => cases negative <;> rfl
  | on h =>
    simp only [onTexts, List.mem_cons, List.not_mem_nil, or_false] at h
    rcases h with rfl | rfl | rfl <;> rfl
  | off h =>
    simp only [onTexts, List.mem_cons, List.not_mem_nil, or_false, not_or] at h
    simp [Parameter.ofJson, Parameter.flag?, h]
  | null => rfl
  | absent => rfl

/-! ## Grants -/

namespace Grant

/-- The names of the fields of a grant. -/
def fieldNames : List String :=
  ["target_database", "target_objects", "allowed_origins", "read_private", "write_private",
    "exec_private"]

/-- The members of an object give a grant, in any order and perhaps beside unknown ones. -/
structure ConfiguredBy (g : Grant) (fields : List (String × Tree)) : Prop where
  once : KnownOnce fieldNames fields
  database : ∃ t, Fields.get? fields "target_database" = some t ∧ IsText g.database t
  objects : GivesWords g.objects (Fields.get? fields "target_objects")
  origins : GivesWords g.origins (Fields.get? fields "allowed_origins")
  read : GivesFlag g.read (Fields.get? fields "read_private")
  write : GivesFlag g.write (Fields.get? fields "write_private")
  exec : GivesFlag g.exec (Fields.get? fields "exec_private")

/-- The columns of a row give a grant. -/
structure StoredIn (g : Grant) (row : JsonRow) : Prop where
  database : row.get? "target_database" = some (.text g.database)
  objects : StoresWords g.objects (row.get? "target_objects")
  origins : StoresWords g.origins (row.get? "allowed_origins")
  read : StoresFlag g.read (row.get? "read_private")
  write : StoresFlag g.write (row.get? "write_private")
  exec : StoresFlag g.exec (row.get? "exec_private")

/-- The objects and origins of a grant are words. -/
def HasWords (g : Grant) : Prop :=
  (∀ word ∈ g.objects, Text.IsWord word) ∧ ∀ word ∈ g.origins, Text.IsWord word

variable {g : Grant}

/-- An object is read as the grant that its members give. -/
theorem ofTree?_of_configuredBy {t : Tree} {fields : List (String × Tree)} (words : g.HasWords)
    (members : HasMembers t fields) (configured : g.ConfiguredBy fields) :
    Grant.ofTree? t = some g := by
  obtain ⟨database, hdatabase, htext⟩ := configured.database
  have hfields := recordFields?_of_hasMembers members configured.once
  unfold Grant.ofTree?
  simp only [fieldNames, List.map_cons, List.map_nil] at hfields
  rw [hfields]
  simp [hdatabase, required, htext.read, configured.objects.read words.1,
    configured.origins.read words.2, configured.read.read, configured.write.read,
    configured.exec.read]

/-- A row is read as the grant that its columns give. -/
theorem ofRow_of_storedIn {row : JsonRow} (words : g.HasWords) (stored : g.StoredIn row) :
    Grant.ofRow row = g := by
  have hdatabase : textOf row "target_database" = g.database := by
    rw [textOf, stored.database]
  rw [ofRow, hdatabase, stored.objects.read words.1, stored.origins.read words.2, stored.read.read,
    stored.write.read, stored.exec.read]

/-! ## Written grants -/

/-- The members of a written grant. -/
def members (g : Grant) : List (String × Json) := [
  ("target_database", .text g.database),
  ("target_objects", .array (g.objects.map .text)),
  ("allowed_origins", .array (g.origins.map .text)),
  ("read_private", .bool g.read),
  ("write_private", .bool g.write),
  ("exec_private", .bool g.exec)]

/-- What the members of a written grant are read as. -/
def memberTrees (g : Grant) : List (String × Tree) := [
  ("target_database", .text (units g.database)),
  ("target_objects", .array (g.objects.map (fun s => .text (units s)))),
  ("allowed_origins", .array (g.origins.map (fun s => .text (units s)))),
  ("read_private", .bool g.read),
  ("write_private", .bool g.write),
  ("exec_private", .bool g.exec)]

theorem isText_units (s : String) : IsText s (.text (units s)) :=
  .intro (Json.readText?_units s)

/-- An object whose names are written has its members by these names. -/
theorem hasMembers_units (fields : List (String × Tree)) :
    HasMembers (.object (fields.map (fun field => (units field.1, field.2)))) fields := by
  constructor
  rw [List.forall₂_map_left_iff, List.forall₂_same]
  exact fun field _ => ⟨Json.readText?_units field.1, rfl⟩

/-- Words that are listed one by one are given. -/
theorem givesWords_units (words : List String) :
    GivesWords words (some (.array (words.map (fun s => .text (units s))))) := by
  apply GivesWords.list
  rw [List.forall₂_map_right_iff, List.forall₂_same]
  exact fun s _ => isText_units s

/-- The members of a written grant give it, in any order. -/
theorem configuredBy_of_perm {fields : List (String × Tree)} (h : fields.Perm g.memberTrees) :
    g.ConfiguredBy fields := by
  have hnames : g.memberTrees.map (·.1) = fieldNames := rfl
  have distinct : (fields.map (·.1)).Nodup := by
    rw [(h.map (·.1)).nodup_iff, hnames]
    decide
  have hget {name : String} {t : Tree} (hmem : (name, t) ∈ g.memberTrees) :
      Fields.get? fields name = some t :=
    Fields.get?_eq_some_of_mem distinct (h.mem_iff.2 hmem)
  constructor
  · exact distinct.sublist (List.filter_sublist.map _)
  · exact ⟨_, hget (by simp [memberTrees]), isText_units g.database⟩
  · rw [hget (t := .array (g.objects.map (fun s => .text (units s)))) (by simp [memberTrees])]
    exact givesWords_units g.objects
  · rw [hget (t := .array (g.origins.map (fun s => .text (units s)))) (by simp [memberTrees])]
    exact givesWords_units g.origins
  · rw [hget (t := .bool g.read) (by simp [memberTrees])]
    exact .given g.read
  · rw [hget (t := .bool g.write) (by simp [memberTrees])]
    exact .given g.write
  · rw [hget (t := .bool g.exec) (by simp [memberTrees])]
    exact .given g.exec

/-- A member of a written object has a name, and its value is read as a tree. -/
def FieldReadsAs (member : String × Json) (field : String × Tree) : Prop :=
  member.1 = field.1 ∧ Json.ReadsAs member.2.chars field.2

/-- An array of texts is read back from its JSON form. -/
theorem readsAs_texts (texts : List String) :
    Json.ReadsAs (Json.array (texts.map .text)).chars
      (.array (texts.map (fun s => .text (units s)))) := by
  apply Json.readsAs_array
  rw [List.forall₂_map_left_iff, List.forall₂_map_right_iff, List.forall₂_same]
  intro s _
  rw [Json.chars]
  exact Json.readsAs_quoted s

/-- The members of a grant are read back from their JSON form. -/
theorem members_readAs (g : Grant) : List.Forall₂ FieldReadsAs g.members g.memberTrees := by
  have hdatabase : Json.ReadsAs (Json.text g.database).chars (.text (units g.database)) := by
    rw [Json.chars]
    exact Json.readsAs_quoted g.database
  exact .cons ⟨rfl, hdatabase⟩ (.cons ⟨rfl, readsAs_texts g.objects⟩
    (.cons ⟨rfl, readsAs_texts g.origins⟩ (.cons ⟨rfl, Json.readsAs_bool g.read⟩
      (.cons ⟨rfl, Json.readsAs_bool g.write⟩ (.cons ⟨rfl, Json.readsAs_bool g.exec⟩ .nil)))))

/-- A written grant is read as it was, whatever the order of its members. -/
theorem read_written {members : List (String × Json)} (words : g.HasWords)
    (h : members.Perm g.members) :
    (Tree.ofBytes? (Utf8.encode (Json.object members).compact)).bind Grant.ofTree? = some g := by
  obtain ⟨fields, hfields, hperm⟩ := List.perm_comp_forall₂ h g.members_readAs
  have hread : List.Forall₂ Json.MemberReadsAs members
      (fields.map (fun field => (units field.1, field.2))) := by
    rw [List.forall₂_map_right_iff]
    apply hfields.imp
    rintro member field ⟨hname, hvalue⟩
    exact ⟨by rw [hname], hvalue⟩
  rw [Utf8.encode_eq, Json.compact, String.toList_ofList,
    Json.ofBytes?_of_readsAs (Json.readsAs_object hread), Option.bind_some]
  exact ofTree?_of_configuredBy words (hasMembers_units fields) (configuredBy_of_perm hperm)

/-- The JSON form of a grant has its members in the order of their names. -/
theorem exists_toJson (g : Grant) :
    ∃ members, g.toJson = .object members ∧ members.Perm g.members := by
  have hnames : g.members.map (·.1) = fieldNames := rfl
  refine ⟨Fields.ofList g.members, rfl, Fields.perm_ofList ?_⟩
  rw [hnames]
  decide

/-- All forms of a grant whose objects and origins are words are read as this grant: an object with
its members, its own JSON form and its members written in any other order, and a row with its
columns. -/
theorem forms_agree (g : Grant) (words : g.HasWords) :
    (∀ t fields, HasMembers t fields → g.ConfiguredBy fields → Grant.ofTree? t = some g) ∧
    (Tree.ofBytes? (Utf8.encode g.toJson.compact)).bind Grant.ofTree? = some g ∧
    (∀ members : List (String × Json), members.Perm g.members →
      (Tree.ofBytes? (Utf8.encode (Json.object members).compact)).bind Grant.ofTree? = some g) ∧
    ∀ row : JsonRow, g.StoredIn row → Grant.ofRow row = g := by
  refine ⟨?_, ?_, fun members => read_written words, fun row => ofRow_of_storedIn words⟩
  · intro t fields members configured
    exact ofTree?_of_configuredBy words members configured
  · obtain ⟨members, hjson, hperm⟩ := g.exists_toJson
    rw [hjson]
    exact read_written words hperm

/-- A grant for two objects and all hosts. -/
def shopGrant : Grant :=
  ⟨"shop", ["orders", "größe"], [], true, false, true⟩

/-- Its members in a configuration, with several blanks between the objects and a comment. -/
def shopFields : List (String × Tree) := [
  ("exec_private", .bool true),
  ("comment", .null),
  ("target_objects", .text (units "orders\t größe ")),
  ("read_private", .bool true),
  ("target_database", .text (units "shop"))]

/-- Its row in a table. -/
def shopRow : JsonRow := [
  ("allowed_origins", .null),
  ("exec_private", .text "yes"),
  ("read_private", .int 1),
  ("target_database", .text "shop"),
  ("target_objects", .text " orders\u3000größe"),
  ("write_private", .double (Double.zero true))]

theorem shopGrant_hasWords : shopGrant.HasWords := by
  have hobjects : Text.fieldsOf "orders größe" = shopGrant.objects := by decide
  exact ⟨(Text.fieldsOf_eq_iff.1 hobjects).2, by simp [shopGrant]⟩

/-- The members, the written grant and the row are read as the same grant. -/
theorem shopGrant_forms :
    shopGrant.ConfiguredBy shopFields ∧ shopGrant.StoredIn shopRow ∧
      Grant.ofTree? (.object (shopFields.map (fun field => (units field.1, field.2)))) =
        some shopGrant ∧
      (Tree.ofBytes? (Utf8.encode shopGrant.toJson.compact)).bind Grant.ofTree? = some shopGrant ∧
      Grant.ofRow shopRow = shopGrant := by
  have hconfigured : shopGrant.ConfiguredBy shopFields := by
    have hobjects : Text.fieldsOf "orders\t größe " = shopGrant.objects := by decide
    exact {
      once := by
        unfold KnownOnce
        decide
      database := ⟨_, rfl, isText_units "shop"⟩
      objects := .joined (isText_units _) (Text.fieldsOf_eq_iff.1 hobjects).1
      origins := .leftOut
      read := .given true
      write := .leftOut
      exec := .given true }
  have hstored : shopGrant.StoredIn shopRow := by
    have hobjects : Text.fieldsOf " orders\u3000größe" = shopGrant.objects := by decide
    exact {
      database := rfl
      objects := .joined (Text.fieldsOf_eq_iff.1 hobjects).1
      origins := .null
      read := .one
      write := .doubleZero true
      exec := .on (by decide) }
  obtain ⟨hread, hwritten, -, hrow⟩ := forms_agree shopGrant shopGrant_hasWords
  exact ⟨hconfigured, hstored, hread _ _ (hasMembers_units shopFields) hconfigured, hwritten,
    hrow _ hstored⟩

end Grant
end SqlRelay
