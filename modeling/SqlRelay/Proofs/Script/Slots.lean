import Mathlib.Data.List.Induction
import Mathlib.Tactic.SplitIfs
import SqlRelay.Proofs.Script.Reading
import SqlRelay.Script.Statement
/-!
# Slots and comments

Two readers go over the body of a statement.  The one that finds the slots only keeps track of
quotes; the scanner keeps track of comments too.  A quote inside a comment leads them apart, and a
slot inside a comment is found by the first alone.

Main results:

- Definition `Template.ofCode` gives the pieces of a body with the slots that begin in code.
- Theorem `Template.readWith_eq_iff`: two readers find one template exactly if they agree wherever
  a slot may begin.
- Theorem `compile_rewrites_code_iff`: the slots that are filled are those of code exactly if both
  readers stay in step.
- Theorem `Template.InStep.of_quiet`: comments without quotes and question marks keep them in
  step.
-/

namespace SqlRelay

/-- The name of the slot that begins with a character, where one may begin. -/
def slotAt? (mayBegin : Bool) (c : Char) (cs : List Char) : Option (List Char) :=
  if mayBegin && c == '?' then slotName? cs else none

/-- Whether a text begins with a slot. -/
def beginsSlot : List Char → Bool
  | [] => false
  | c :: cs => (slotAt? true c cs).isSome

/-- The quote of the literal that is open after one more character, with no regard to comments. -/
def quoteStep (quote : Option Char) (c : Char) : Option Char :=
  match quote with
  | some opened => if c = opened then none else some opened
  | none => if isQuote c then some c else none

namespace Template

section Readers

variable {σ : Type} (step : σ → Char → σ) (isOpen : σ → Bool)

/-- The pieces of a text that follows `skip` characters of a slot already read, with the slots
that begin where the reader is open to them.  The reader goes over every character. -/
def readWith : σ → Nat → List Char → Template
  | _, _, [] => []
  | s, skip + 1, c :: cs => readWith (step s c) skip cs
  | s, 0, c :: cs =>
    match slotAt? (isOpen s) c cs with
    | some name => .slot name :: readWith (step s c) (name.length + 1) cs
    | none => .char c :: readWith (step s c) 0 cs

end Readers

/-- The pieces of a body with the slots that begin in code. -/
def ofCode (cs : List Char) : Template :=
  readWith Region.step Region.isCode .code 0 cs

/-- The quote of the literal that is open after a text. -/
def quoteAfter (cs : List Char) : Option Char :=
  cs.foldl quoteStep none

/-- Wherever a slot may begin, no quote is open exactly if the scanner is in code. -/
def InStep (body : List Char) : Prop :=
  ∀ (before : Template) (piece : Piece) (rest : Template), ofBody body = before ++ piece :: rest →
    beginsSlot (source (piece :: rest)) = true →
      (quoteAfter before.source).isNone = (Region.code.after before.source).isCode

section Readers

variable {σ τ : Type} {step : σ → Char → σ} {isOpen : σ → Bool}
  {step' : τ → Char → τ} {isOpen' : τ → Bool}

@[simp]
theorem readWith_nil (s : σ) (skip : Nat) : readWith step isOpen s skip [] = [] := by
  cases skip <;> rfl

/-- A slot is found where one may begin, at a question mark with a name behind it. -/
theorem slotAt?_eq_some {mayBegin : Bool} {c : Char} {cs name : List Char}
    (h : slotAt? mayBegin c cs = some name) :
    mayBegin = true ∧ c = '?' ∧ slotName? cs = some name := by
  unfold slotAt? at h
  split at h
  · rename_i hopen
    simp only [Bool.and_eq_true, beq_iff_eq] at hopen
    exact ⟨hopen.1, hopen.2, h⟩
  · simp at h

/-- Where a slot may not begin, there is none. -/
@[simp]
theorem slotAt?_false (c : Char) (cs : List Char) : slotAt? false c cs = none := by
  simp [slotAt?]

/-- Writing the slots back restores the text, whatever the reader. -/
theorem source_readWith (s : σ) (skip : Nat) (cs : List Char) :
    source (readWith step isOpen s skip cs) = cs.drop skip := by
  fun_induction readWith step isOpen s skip cs with
  | case1 => simp
  | case2 s skip c cs ih => simpa using ih
  | case3 s c cs name found ih =>
    obtain ⟨-, rfl, hname⟩ := slotAt?_eq_some found
    obtain ⟨rest, rfl, -⟩ := slotName?_eq_some hname
    rw [source_cons, ih]
    simp [pieceSource, List.drop_append]
  | case4 s c cs _ ih => simpa [pieceSource] using ih

theorem take_slot {cs name : List Char} (h : slotName? cs = some name) :
    cs.take (name.length + 1) = name ++ ['?'] := by
  obtain ⟨rest, rfl, -⟩ := slotName?_eq_some h
  simp [List.take_append, List.take_of_length_le]

/-- The text of a slot and of what is read behind it is the text itself. -/
theorem source_slot_cons {cs name : List Char} (h : slotName? cs = some name) (s : σ) :
    source (.slot name :: readWith step isOpen s (name.length + 1) cs) = '?' :: cs := by
  rw [source_cons, source_readWith, pieceSource, List.cons_append, ← take_slot h,
    List.cons_append, List.take_append_drop]

theorem source_char_cons (s : σ) (c : Char) (cs : List Char) :
    source (.char c :: readWith step isOpen s 0 cs) = c :: cs := by
  simp [source_readWith, pieceSource]

/-- A slot that is found begins where the reader is open to it. -/
theorem slotAt?_eq_none_of_begins {mayBegin : Bool} {c : Char} {cs : List Char}
    (h : slotAt? mayBegin c cs = none) (hbegins : beginsSlot (c :: cs) = true) :
    mayBegin = false := by
  cases mayBegin with
  | false => rfl
  | true => simp [beginsSlot, h] at hbegins

/-- Two readers find one template exactly if they agree wherever a slot may begin. -/
theorem readWith_eq_iff (s : σ) (s' : τ) (skip : Nat) (cs : List Char) :
    readWith step isOpen s skip cs = readWith step' isOpen' s' skip cs ↔
      ∀ before piece rest, readWith step isOpen s skip cs = before ++ piece :: rest →
        beginsSlot (source (piece :: rest)) = true →
          isOpen ((cs.take skip ++ source before).foldl step s) =
            isOpen' ((cs.take skip ++ source before).foldl step' s') := by
  fun_induction readWith step isOpen s skip cs generalizing s' with
  | case1 =>
    constructor
    · intro _ before piece rest hsplit
      simp at hsplit
    · intro _
      exact (readWith_nil s' _).symm
  | case2 s skip c cs ih => simpa [readWith] using ih (step' s' c)
  | case3 s c cs name found ih =>
    obtain ⟨hopen, rfl, hname⟩ := slotAt?_eq_some found
    rw [forall_split_cons]
    cases hopen' : isOpen' s' with
    | true =>
      have hother : readWith step' isOpen' s' 0 ('?' :: cs) =
          .slot name :: readWith step' isOpen' (step' s' '?') (name.length + 1) cs := by
        simp [readWith, slotAt?, hopen', hname]
      rw [hother, List.cons_inj_right, ih]
      simp [hopen, hopen', take_slot hname, pieceSource]
    | false =>
      have hbegins : beginsSlot ('?' :: cs) = true := by simp [beginsSlot, slotAt?, hname]
      simp [readWith, hopen, hopen', source_slot_cons hname, hbegins]
  | case4 s c cs found ih =>
    rw [forall_split_cons, source_char_cons]
    cases hother : slotAt? (isOpen' s') c cs with
    | none =>
      have hagree : beginsSlot (c :: cs) = true → isOpen s = isOpen' s' := by
        intro hbegins
        rw [slotAt?_eq_none_of_begins found hbegins, slotAt?_eq_none_of_begins hother hbegins]
      have htail := ih (step' s' c)
      simp only [readWith, hother, List.cons_inj_right, htail]
      simpa [pieceSource] using fun _ => hagree
    | some name =>
      obtain ⟨hopen', -, hname⟩ := slotAt?_eq_some hother
      rw [hopen'] at hother
      have hbegins : beginsSlot (c :: cs) = true := by simp [beginsSlot, hother]
      have hopen := slotAt?_eq_none_of_begins found hbegins
      simp [readWith, hother, hbegins, hopen, hopen']

/-- The slots that a reader finds are the texts of slots that begin where it is open to them. -/
theorem readWith_slot_iff (s : σ) (skip : Nat) (cs : List Char) :
    ∀ before piece rest, readWith step isOpen s skip cs = before ++ piece :: rest →
      ((∃ name, piece = .slot name) ↔
        isOpen ((cs.take skip ++ source before).foldl step s) = true ∧
          beginsSlot (source (piece :: rest)) = true) := by
  fun_induction readWith step isOpen s skip cs with
  | case1 =>
    intro before piece rest hsplit
    simp at hsplit
  | case2 s skip c cs ih => simpa using ih
  | case3 s c cs name found ih =>
    obtain ⟨hopen, rfl, hname⟩ := slotAt?_eq_some found
    rw [forall_split_cons]
    refine ⟨?_, ?_⟩
    · simp [source_slot_cons hname, hopen, beginsSlot, slotAt?, hname]
    · intro before piece rest hsplit
      simpa [take_slot hname, pieceSource] using ih before piece rest hsplit
  | case4 s c cs found ih =>
    rw [forall_split_cons]
    refine ⟨?_, ?_⟩
    · have hclosed : isOpen s = true → beginsSlot (c :: cs) = false := by
        intro hopen
        simpa [beginsSlot, hopen] using found
      rw [source_char_cons]
      simpa using hclosed
    · intro before piece rest hsplit
      simpa [pieceSource] using ih before piece rest hsplit

/-- Two readers whose templates are rendered alike find one template: a question mark that is
copied is not the placeholder of this dialect. -/
theorem readWith_eq_of_renderFrom (s : σ) (s' : τ) (skip index : Nat) (cs : List Char)
    (h : renderFrom .postgres index (readWith step isOpen s skip cs) =
      renderFrom .postgres index (readWith step' isOpen' s' skip cs)) :
    readWith step isOpen s skip cs = readWith step' isOpen' s' skip cs := by
  fun_induction readWith step isOpen s skip cs generalizing s' index with
  | case1 => exact (readWith_nil s' _).symm
  | case2 s skip c cs ih => exact ih (step' s' c) index h
  | case3 s c cs name found ih =>
    obtain ⟨-, rfl, hname⟩ := slotAt?_eq_some found
    cases hother : slotAt? (isOpen' s') '?' cs with
    | none => simp [readWith, hother, renderFrom, Dialect.placeholder] at h
    | some name' =>
      obtain ⟨-, -, hname'⟩ := slotAt?_eq_some hother
      obtain rfl : name = name' := Option.some.inj (hname.symm.trans hname')
      simp only [readWith, hother, renderFrom, List.append_cancel_left_eq] at h ⊢
      rw [ih (step' s' '?') (index + 1) h]
  | case4 s c cs found ih =>
    cases hother : slotAt? (isOpen' s') c cs with
    | none =>
      simp only [readWith, hother, renderFrom, List.cons_inj_right] at h ⊢
      exact ih (step' s' c) index h
    | some name' =>
      obtain ⟨-, rfl, -⟩ := slotAt?_eq_some hother
      simp [readWith, hother, renderFrom, Dialect.placeholder] at h

end Readers

/-- The slots of code are the texts of slots that begin where the scanner is in code. -/
theorem ofCode_slot_iff {body : List Char} {before rest : Template} {piece : Piece}
    (h : ofCode body = before ++ piece :: rest) :
    (∃ name, piece = .slot name) ↔
      (Region.code.after before.source).isCode = true ∧
        beginsSlot (source (piece :: rest)) = true := by
  unfold ofCode at h
  simpa [Region.after] using readWith_slot_iff Region.code 0 body before piece rest h

/-! ## The reader that tracks quotes -/

/-- Reading a body is reading it with the quotes tracked; the characters of a slot open none. -/
theorem readFrom_eq_readWith (quote : Option Char) (skip : Nat) (cs : List Char)
    (h : ∀ c ∈ cs.take skip, quoteStep quote c = quote) :
    readFrom quote skip cs = readWith quoteStep Option.isNone quote skip cs := by
  fun_induction readFrom quote skip cs with
  | case1 => exact (readWith_nil _ _).symm
  | case2 quote skip c cs ih =>
    have hc : quoteStep quote c = quote := h c (by simp)
    rw [ih fun x hx => h x (by simp [hx]), readWith, hc]
  | case3 opened c cs ih => simp [readWith, quoteStep, ih (by simp)]
  | case4 c cs hquote ih =>
    have hmark : c ≠ '?' := by
      rintro rfl
      revert hquote
      decide
    simp [readWith, slotAt?, quoteStep, hquote, hmark, ih (by simp)]
  | case5 cs name found hquote ih =>
    obtain ⟨-, -, -, hchars⟩ := slotName?_eq_some found
    have hskipped : ∀ c ∈ cs.take (name.length + 1), quoteStep none c = none := by
      intro c hc
      have hmem : c ∈ name ∨ c = '?' := by simpa [take_slot found] using hc
      rcases hmem with hc | rfl
      · have := hchars c hc
        simp only [endsSlotName, Bool.or_eq_false_iff] at this
        simp [quoteStep, this.2]
      · decide
    simp [readWith, slotAt?, found, quoteStep, hquote, ih hskipped]
  | case6 cs hnone hquote ih => simp [readWith, slotAt?, hnone, quoteStep, hquote, ih (by simp)]
  | case7 c cs hquote hmark ih => simp [readWith, slotAt?, quoteStep, hquote, hmark, ih (by simp)]

/-- The program reads slots with the reader that tracks quotes. -/
theorem ofBody_eq_readWith (body : List Char) :
    ofBody body = readWith quoteStep Option.isNone none 0 body :=
  readFrom_eq_readWith none 0 body (by simp)

/-- The slots of a body are those of its code exactly if both readers stay in step. -/
theorem ofBody_eq_ofCode_iff (body : List Char) : ofBody body = ofCode body ↔ InStep body := by
  unfold InStep
  rw [ofBody_eq_readWith, ofCode, readWith_eq_iff]
  rfl

/-! ## Comments that keep the readers in step -/

/-- Neither quotes nor question marks stand in the comments of a body. -/
def QuietComments (body : List Char) : Prop :=
  ∀ before c after, body = before ++ c :: after → (Region.code.after before).isComment = true →
    isQuote c = false ∧ c ≠ '?'

/-- Whether a quote is open exactly in the literals of that quote. -/
def Matches (quote : Option Char) : Region → Prop
  | .literal opened => quote = some opened
  | _ => quote = none

/-- Both readers go on together over a character that is no quote of a comment. -/
theorem Matches.step {quote : Option Char} {r : Region} (h : Matches quote r) {c : Char}
    (hc : r.isComment = true → isQuote c = false) : Matches (quoteStep quote c) (r.step c) := by
  cases r with
  | literal opened =>
    obtain rfl : quote = some opened := h
    by_cases hclose : c = opened <;> simp [quoteStep, Region.step, hclose, Matches]
  | code | dash | slash =>
    obtain rfl : quote = none := h
    simp only [quoteStep, Region.step, Region.enter]
    split_ifs <;> simp_all [Matches, isQuote]
  | lineComment | blockComment | star =>
    obtain rfl : quote = none := h
    have hplain := hc rfl
    simp only [quoteStep, hplain, Region.step]
    split_ifs <;> simp_all [Matches]

/-- Both readers stay together over a text whose comments hold no quotes. -/
theorem matches_after {cs : List Char}
    (h : ∀ before c after, cs = before ++ c :: after →
      (Region.code.after before).isComment = true → isQuote c = false) :
    Matches (quoteAfter cs) (Region.code.after cs) := by
  induction cs using List.reverseRecOn with
  | nil => rfl
  | append_singleton cs c ih =>
    have hcs : Matches (quoteAfter cs) (Region.code.after cs) :=
      ih fun before d after hsplit => h before d (after ++ [c]) (by simp [hsplit])
    rw [quoteAfter, List.foldl_append, Region.after_append]
    exact hcs.step (h cs c [] rfl)

/-- Comments without quotes and question marks keep the readers in step. -/
theorem InStep.of_quiet {body : List Char} (h : QuietComments body) : InStep body := by
  intro before piece rest hsplit hbegins
  have hbody : body = before.source ++ source (piece :: rest) := by
    rw [← source_ofBody body, hsplit]
    simp [source]
  have hmatches : Matches (quoteAfter before.source) (Region.code.after before.source) := by
    refine matches_after fun left c right hleft hcomment => ?_
    exact (h left c (right ++ source (piece :: rest)) (by rw [hbody, hleft]; simp) hcomment).1
  have hcode : (Region.code.after before.source).isComment = false := by
    cases htext : source (piece :: rest) with
    | nil => simp [htext, beginsSlot] at hbegins
    | cons c text =>
      rw [htext] at hbegins hbody
      obtain ⟨name, hname⟩ := Option.isSome_iff_exists.1 hbegins
      have hmark := (slotAt?_eq_some hname).2.1
      cases hcomment : (Region.code.after before.source).isComment with
      | false => rfl
      | true => exact absurd hmark (h _ c text hbody hcomment).2
  revert hmatches hcode
  cases Region.code.after before.source <;> simp +contextual [Matches, Region.isComment,
    Region.isCode]

end Template

/-! ## Compiled statements -/

/-- The text of a statement with the names that fill it. -/
def Statement.written (s : Statement) : String × List String :=
  (s.sql, s.params)

/-- The text and the names that a template gives in a dialect. -/
def Template.written (d : Dialect) (t : Template) : String × List String :=
  (String.ofList (t.render d), t.names.map String.ofList)

/-- Compiled statements are written as the templates of their bodies are. -/
theorem statementsFrom_written (script : String) (d : Dialect) (start : Nat) (fs : List Fragment) :
    (statementsFrom script d start fs).map Statement.written =
      fs.map fun f => (Template.ofBody f.body).written d := by
  induction fs generalizing start with
  | nil => rfl
  | cons f fs ih =>
    rw [statementsFrom, List.map_cons, List.map_cons, ih]
    rfl

/-- The statements of a script rewrite exactly the slots that begin in code, in every dialect,
exactly if both readers stay in step over every body. -/
theorem compile_rewrites_code_iff {text : List Char} {parts : List (List Char)}
    (h : fragments? text = .ok parts) (script : String) :
    (∀ d, ∃ statements, compile script text d = .ok statements ∧
      statements.map Statement.written =
        (bodies parts).map fun f => (Template.ofCode f.body).written d) ↔
      ∀ f ∈ bodies parts, Template.InStep f.body := by
  simp only [compile_eq_ok h, Except.ok.injEq, exists_eq_left', statementsFrom_written,
    List.map_inj_left]
  constructor
  · intro hwritten f hf
    have hsql : (Template.ofBody f.body).render .postgres =
        (Template.ofCode f.body).render .postgres := by
      have hfirst := congrArg Prod.fst (hwritten .postgres f hf)
      simpa [Template.written, String.ofList_inj] using hfirst
    rw [← Template.ofBody_eq_ofCode_iff]
    rw [Template.ofBody_eq_readWith] at hsql ⊢
    exact Template.readWith_eq_of_renderFrom _ _ _ _ _ hsql
  · intro hstep d f hf
    rw [(Template.ofBody_eq_ofCode_iff f.body).2 (hstep f hf)]

/-- A comment without quotes leaves the slot behind it to be filled. -/
theorem compile_rewrites_code_past_comment :
    fragments? "SELECT 1 /* its */ + ?x?".toList = .ok ["SELECT 1 /* its */ + ?x?".toList] ∧
      ∀ d, ∃ statements, compile "s" "SELECT 1 /* its */ + ?x?".toList d = .ok statements ∧
        statements.map Statement.written =
          (bodies ["SELECT 1 /* its */ + ?x?".toList]).map fun f =>
            (Template.ofCode f.body).written d := by
  have hparts : fragments? "SELECT 1 /* its */ + ?x?".toList =
      .ok ["SELECT 1 /* its */ + ?x?".toList] := by
    decide +kernel
  refine ⟨hparts, (compile_rewrites_code_iff hparts "s").2 ?_⟩
  have hstep : ∀ f ∈ bodies ["SELECT 1 /* its */ + ?x?".toList],
      Template.ofBody f.body = Template.ofCode f.body := by
    decide +kernel
  exact fun f hf => (Template.ofBody_eq_ofCode_iff f.body).1 (hstep f hf)

/-- An apostrophe in a comment lets a slot be found in the literal behind it. -/
theorem compile_fills_slot_of_literal :
    ¬ ∀ (text : List Char) (parts : List (List Char)), fragments? text = .ok parts →
      ∀ script d, ∃ statements, compile script text d = .ok statements ∧
        statements.map Statement.written =
          (bodies parts).map fun f => (Template.ofCode f.body).written d := by
  intro h
  have hparts : fragments? "SELECT 1 /* it's */, '?x?'".toList =
      .ok ["SELECT 1 /* it's */, '?x?'".toList] := by
    decide +kernel
  obtain ⟨statements, hcompile, hwritten⟩ := h _ _ hparts "s" .postgres
  rw [compile_eq_ok hparts, Except.ok.injEq] at hcompile
  rw [← hcompile, statementsFrom_written] at hwritten
  revert hwritten
  decide +kernel

end SqlRelay
