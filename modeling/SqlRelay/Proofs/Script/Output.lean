import SqlRelay.Proofs.Parameter.Order
import SqlRelay.Proofs.Script.Transaction
/-!
# What a script gives out

The outputs of exported statements are kept by label, and of several under one label the last
counts.  How many labels there are decides the shape: none gives nothing, one gives its output
alone, and several give an object with one member for each.

Main results:

- Definition `LastOutput` says which output counts for a label, and theorem
  `get?_exportsOf_eq_some_iff` that this is the one that is kept.
- Definition `ScriptOutput.Shapes` says what statements with their outputs give out.
- Theorem `Course.outputs`: rows are the output of a query, and its outcome that of a write.
- Theorem `runScript_shapes_output`: a script that succeeds gives out what its statements say.
-/

namespace SqlRelay

/-- An output is the array of some rows if the statement is a query, and else the outcome of a
write. -/
def Statement.Outputs (st : Statement) (output : Json) : Prop :=
  if st.isQuery then ∃ rows : List JsonRow, output = rowsJson rows
  else ∃ w : WriteSummary, output = w.toJson

/-- What a statement gives in its turn is its output. -/
theorem Statement.Turn.outputs {d : Dialect} {ps : Parameters} {m : Metadata} {st : Statement}
    {replies left : List Reply} {events : List Event} {result : Except RelayError Json}
    (turn : st.Turn d ps m replies events result left) {output : Json} (h : result = .ok output) :
    st.Outputs output := by
  unfold Statement.Outputs
  cases turn with
  | unbound absent => simp at h
  | fetched bound query =>
    rw [if_pos query]
    cases hrows : (nextReply replies).decoded with
    | error fault => simp [hrows, Except.map] at h
    | ok rows =>
      simp only [hrows, acceptedResult_ok, Except.map, Except.ok.injEq] at h
      exact ⟨rows, h.symm⟩
  | refused bound write failed => simp at h
  | wrote bound write written known =>
    rw [if_neg (by simp [write])]
    exact ⟨_, (Except.ok.inj h).symm⟩
  | readBack bound write written unknown =>
    rw [if_neg (by simp [write])]
    cases hid : (nextReply replies.tail).firstInteger with
    | error fault => simp [hid, Except.map] at h
    | ok id =>
      simp only [hid, acceptedResult_ok, Except.map, Except.ok.injEq] at h
      exact ⟨_, h.symm⟩

/-- In a course that goes to its end every statement has its output. -/
theorem Course.outputs {d : Dialect} {ps : Parameters} {m : Metadata}
    {statements : List Statement} {replies left : List Reply} {events : List Event}
    {result : Except RelayError (List Json)}
    (course : Course d ps m statements replies events result left) {outputs : List Json}
    (h : result = .ok outputs) : List.Forall₂ Statement.Outputs statements outputs := by
  induction course generalizing outputs with
  | finished =>
    obtain rfl := Except.ok.inj h
    exact .nil
  | failed turn => simp at h
  | @went st rest replies between left events more output result turn onwards ih =>
    cases result with
    | error e => simp [Except.map] at h
    | ok others =>
      obtain rfl := Except.ok.inj h
      exact .cons (turn.outputs rfl) (ih rfl)

/-- The output of the last exported statement with a label, among statements with their outputs. -/
def LastOutput (ran : List (Statement × Json)) (label : String) (output : Json) : Prop :=
  ∃ before st behind, ran = before ++ (st, output) :: behind ∧ st.isExported = true ∧
    st.label = label ∧ ∀ later ∈ behind, later.1.isExported = true → later.1.label ≠ label

section Exports

variable (statements : List Statement) (outputs : List Json)

/-- A label has the output of the last statement that exports it. -/
theorem get?_exportsOf (label : String) :
    (Fields.ofList (exportsOf statements outputs)).get? label =
      ((statements.zip outputs).reverse.find?
        fun pair => pair.1.isExported && pair.1.label == label).map (·.2) := by
  rw [Fields.ofList, Fields.get?_putAll, Fields.get?_nil, Option.or_none, exportsOf,
    ← List.map_reverse, ← List.filter_reverse, List.find?_map, List.find?_filter, Option.map_map]
  simp only [Function.comp_def, Bool.decide_and, Bool.decide_eq_true]

/-- What is kept under a label is the output of the last exported statement with it. -/
theorem get?_exportsOf_eq_some_iff (label : String) (output : Json) :
    (Fields.ofList (exportsOf statements outputs)).get? label = some output ↔
      LastOutput (statements.zip outputs) label output := by
  rw [get?_exportsOf, Option.map_eq_some_iff]
  constructor
  · rintro ⟨⟨st, _⟩, hfind, rfl⟩
    obtain ⟨hlabel, behind, before, hsplit, hbehind⟩ := List.find?_eq_some_iff_append.1 hfind
    rw [Bool.and_eq_true, beq_iff_eq] at hlabel
    refine ⟨before.reverse, st, behind.reverse, ?_, hlabel.1, hlabel.2, ?_⟩
    · simpa using congrArg List.reverse hsplit
    · intro later hlater hexported hsame
      simpa [hexported, hsame] using hbehind later (List.mem_reverse.1 hlater)
  · rintro ⟨before, st, behind, hsplit, hexported, hlabel, hbehind⟩
    refine ⟨(st, output), List.find?_eq_some_iff_append.2 ⟨by simp [hexported, hlabel],
      behind.reverse, before.reverse, by simp [hsplit], ?_⟩, rfl⟩
    intro later hlater
    cases hlaterExported : later.1.isExported with
    | false => simp
    | true => simpa using hbehind later (List.mem_reverse.1 hlater) hlaterExported

/-- The exported outputs are the last ones of their labels. -/
theorem mem_exportsOf_iff (label : String) (output : Json) :
    (label, output) ∈ Fields.ofList (exportsOf statements outputs) ↔
      LastOutput (statements.zip outputs) label output := by
  rw [← (Fields.ordered_ofList _).get?_eq_some_iff, get?_exportsOf_eq_some_iff]

variable {statements outputs}

/-- The label of an exported statement has a last output. -/
theorem exists_lastOutput {ran : Statement × Json} (hmem : ran ∈ statements.zip outputs)
    (hexported : ran.1.isExported = true) :
    ∃ output, LastOutput (statements.zip outputs) ran.1.label output := by
  simp only [← get?_exportsOf_eq_some_iff, get?_exportsOf]
  rw [← Option.isSome_iff_exists, Option.isSome_map, List.find?_isSome]
  exact ⟨ran, List.mem_reverse.2 hmem, by simp [hexported]⟩

end Exports

/-- The last output of a label is that of a statement that exports it. -/
theorem LastOutput.exported {ran : List (Statement × Json)} {label : String} {output : Json}
    (last : LastOutput ran label output) :
    ∃ st, (st, output) ∈ ran ∧ st.isExported = true ∧ st.label = label := by
  obtain ⟨before, st, behind, rfl, hexported, hlabel, -⟩ := last
  exact ⟨st, by simp, hexported, hlabel⟩

/-! ## Shapes -/

/-- What statements with their outputs give out: nothing if none is exported, the last output alone
if all exported statements have one label, and else one member for each of their labels, with the
last output of the label. -/
inductive ScriptOutput.Shapes (ran : List (Statement × Json)) : ScriptOutput → Prop where
  | empty (none : ∀ st ∈ ran, st.1.isExported = false) : Shapes ran .empty
  | single {label : String} {output : Json}
      (one : ∀ st ∈ ran, st.1.isExported = true → st.1.label = label)
      (last : LastOutput ran label output) : Shapes ran (.single output)
  | labeled {a b : Statement × Json} {members : Fields Json} (first : a ∈ ran) (second : b ∈ ran)
      (firstExported : a.1.isExported = true) (secondExported : b.1.isExported = true)
      (several : a.1.label ≠ b.1.label) (ordered : members.Ordered)
      (members_iff : ∀ label output, (label, output) ∈ members ↔ LastOutput ran label output) :
      Shapes ran (.labeled members)

/-- What is kept by label gives the shape. -/
theorem ScriptOutput.ofExports_shapes (statements : List Statement) (outputs : List Json) :
    Shapes (statements.zip outputs)
      (ofExports (Fields.ofList (exportsOf statements outputs))) := by
  have members_iff := mem_exportsOf_iff statements outputs
  have ordered := Fields.ordered_ofList (exportsOf statements outputs)
  generalize Fields.ofList (exportsOf statements outputs) = members at members_iff ordered
  match members with
  | [] =>
    refine .empty fun st hst => ?_
    cases hexported : st.1.isExported with
    | false => rfl
    | true =>
      obtain ⟨output, last⟩ := exists_lastOutput hst hexported
      exact absurd ((members_iff _ _).2 last) (by simp)
  | [(label, output)] =>
    refine .single (fun st hst hexported => ?_) ((members_iff label output).1 (by simp))
    obtain ⟨other, last⟩ := exists_lastOutput hst hexported
    have hmember := List.mem_singleton.1 ((members_iff _ _).2 last)
    exact congrArg Prod.fst hmember
  | (label, output) :: (label', output') :: rest =>
    obtain ⟨st, hst, hexported, hlabel⟩ := ((members_iff label output).1 (by simp)).exported
    obtain ⟨st', hst', hexported', hlabel'⟩ := ((members_iff label' output').1 (by simp)).exported
    have hlt : label < label' := (List.pairwise_cons.1 ordered).1 (label', output') (by simp)
    refine .labeled hst hst' hexported hexported' ?_ ordered members_iff
    dsimp only
    rw [hlabel, hlabel']
    rintro rfl
    exact String.lt_irrefl _ hlt

/-- A script that succeeds gives out what its statements say: each of them took its turn and has its
output, rows if it is a query and the outcome of a write otherwise, and these outputs give the
shape. -/
theorem runScript_shapes_output {d : Dialect} {statements : List Statement} {ps : Parameters}
    {m : Metadata} {s : Session} {output : ScriptOutput}
    (h : (runScript d statements ps m s).1 = .ok output) :
    ∃ events outputs left, Course d ps m statements s.replies events (.ok outputs) left ∧
      List.Forall₂ Statement.Outputs statements outputs ∧
      ScriptOutput.Shapes (statements.zip outputs) output := by
  obtain ⟨events, result, left, hrun, transaction⟩ :=
    runScript_is_transaction d statements ps m s
  rw [hrun] at h
  obtain rfl : result = .ok output := h
  cases transaction with
  | committed begun course sound =>
    exact ⟨_, _, left, course, course.outputs rfl, ScriptOutput.ofExports_shapes statements _⟩

/-- Exported and other statements of both kinds, where a label is also the index of the first
statement. -/
def mixedStatements : List Statement :=
  statementsFrom "mixed" .sqlite 0
    [⟨none, "SELECT 1 AS a".toList⟩, ⟨none, "Insert into t values (1)".toList⟩,
      ⟨some ['0'], "SELECT 2 AS a".toList⟩, ⟨none, "select 3 AS a".toList⟩]

/-- A session in which each of these statements is answered, and the row of the insertion too. -/
def mixedSession : Session :=
  .prepare .start
    [⟨[[("a", .integer 1)]], 0, none, none⟩, ⟨[], 1, none, none⟩,
      ⟨[[("id", .bigInt 7)]], 0, none, none⟩, ⟨[[("a", .integer 2)]], 0, none, none⟩,
      ⟨[[("a", .integer 3)]], 0, none, none⟩] .nothing

/-- Three exported statements with two labels give two members. -/
def mixedOutput : ScriptOutput :=
  .labeled [("0", .array [.object [("a", .int 2)]]),
    ("1", .object [("last_insert_id", .int 7), ("rows_affected", .int 1)])]

/-- The last output of the label `0` counts, and the statement that is not exported is not seen. -/
theorem runScript_shapes_mixedOutput :
    (runScript .sqlite mixedStatements [] default mixedSession).1 = .ok mixedOutput ∧
      ∃ events outputs left,
        Course .sqlite [] default mixedStatements mixedSession.replies events (.ok outputs) left ∧
          List.Forall₂ Statement.Outputs mixedStatements outputs ∧
          ScriptOutput.Shapes (mixedStatements.zip outputs) mixedOutput := by
  have hrun : (runScript .sqlite mixedStatements [] default mixedSession).1 = .ok mixedOutput := rfl
  exact ⟨hrun, runScript_shapes_output hrun⟩

end SqlRelay
