import SqlRelay.Proofs.Script.Cutting
import SqlRelay.Script.Statement
/-!
# Scripts put together

Two scripts are put together with a semicolon between them.  If the first one ends in code, the
semicolon cuts there, and nothing of the second script depends on the first one but the numbers of
its statements and the offset of its error.

Main results:

- Theorem `Scan.Behind.foldl`: a scan that starts behind other text reads on in the same way.
- Theorem `fragments?_join`: the parts of both scripts in a row, or the error of the second one
  behind the first.
- Theorem `statementsFrom_raised`: statements that start at another index are raised to it.
- Theorem `compile_join`: compiling is compositional.
-/

namespace SqlRelay

/-- A scan that has read `count` bytes more in front than another one.  Before the first character
of the text that both read, nothing has been opened in it. -/
structure Scan.Behind (count : Nat) (s t : Scan) : Prop where
  region : s.region = t.region
  offset : s.offset = count + t.offset
  opened : t.region ≠ .code → s.opened = count + t.opened

/-- Both scans read one more character in the same way. -/
theorem Scan.Behind.step {count : Nat} {s t : Scan} (h : Behind count s t) (c : Char) :
    Behind count (s.step c) (t.step c) := by
  have hregion : (s.step c).region = (t.step c).region := congrArg (Region.step · c) h.region
  have hoffset : (s.step c).offset = count + (t.step c).offset := by
    simp only [Scan.step, h.offset, Nat.add_assoc]
  refine ⟨hregion, hoffset, fun _ => ?_⟩
  simp only [Scan.step, h.region]
  by_cases hopens : (t.region.isCode && t.region.step c != .blockComment) = true
  · rw [if_pos hopens, if_pos hopens, h.offset]
  · rw [if_neg hopens, if_neg hopens]
    apply h.opened
    intro hcode
    rw [hcode] at hopens
    exact hopens (by simp [Region.isCode, Region.step, Region.enter_ne_blockComment])

/-- One scan stays behind another over the same text. -/
theorem Scan.Behind.foldl {count : Nat} {s t : Scan} (h : Behind count s t) (cs : List Char) :
    Behind count (cs.foldl Scan.step s) (cs.foldl Scan.step t) := by
  induction cs generalizing s t with
  | nil => exact h
  | cons c cs ih => exact ih (h.step c)

/-- The error of a scan behind other text is shifted by its bytes. -/
theorem Scan.Behind.error?_eq {count : Nat} {s t : Scan} (h : Behind count s t) :
    s.error? = t.error?.map (CompileError.shift count) := by
  have hopened := h.opened
  unfold Scan.error?
  rw [h.region]
  cases hregion : t.region with
  | code | dash | slash | lineComment => rfl
  | literal quote | blockComment | star =>
    have hshift : s.opened = count + t.opened := hopened (by simp [hregion])
    simp [CompileError.shift, hshift]

section Join

variable {a : List Char} (h : (Region.code.after a).isCode = true)

include h

/-- Behind a semicolon of code the scanner starts anew. -/
theorem after_join (b : List Char) : Region.code.after (a ++ ';' :: b) = Region.code.after b := by
  rw [Region.after_append, Region.after_cons, Region.step_semicolon h]

/-- A scan goes on behind a semicolon of code as it would begin anew. -/
theorem Scan.of_join (b : List Char) :
    Behind (byteLength a + 1) (Scan.of (a ++ ';' :: b)) (Scan.of b) := by
  have hstart : Behind (byteLength a + 1) ((Scan.of a).step ';') Scan.start := by
    refine ⟨?_, ?_, fun hne => absurd rfl hne⟩
    · exact (congrArg (Region.step · ';') (Scan.of_region a)).trans (Region.step_semicolon h)
    · simp only [Scan.step, Scan.of_offset]
      rfl
  have hscan : Scan.of (a ++ ';' :: b) = b.foldl Scan.step ((Scan.of a).step ';') := by
    simp [Scan.of]
  rw [hscan]
  exact hstart.foldl b

/-- Two scripts are cut one after the other. -/
theorem fragmentsFrom_join (b : List Char) :
    fragmentsFrom .code (a ++ ';' :: b) = fragmentsFrom .code a ++ fragmentsFrom .code b := by
  have hne := fragmentsFrom_ne_nil .code a
  have hlast := (List.dropLast_concat_getLast hne).symm
  have hcut : fragmentsFrom (Region.code.after a) (';' :: b) = [] :: fragmentsFrom .code b := by
    simp [fragmentsFrom, h]
  rw [fragmentsFrom_append hlast hcut, List.append_nil]
  conv_rhs => rw [hlast]
  simp

/-- The parts of both scripts in a row, or the error of the second one behind the first. -/
theorem fragments?_join (b : List Char) :
    fragments? (a ++ ';' :: b) =
      match fragments? b with
      | .error e => .error (e.shift (byteLength a + 1))
      | .ok parts => .ok (fragmentsFrom .code a ++ parts) := by
  cases hb : fragments? b with
  | error e =>
    rw [fragments?_eq_error_iff] at hb ⊢
    rw [(Scan.of_join h b).error?_eq, hb]
    rfl
  | ok parts =>
    obtain ⟨hcomplete, rfl⟩ := (fragments?_eq_ok_iff b parts).1 hb
    rw [fragments?_eq_ok_iff, after_join h, fragmentsFrom_join h]
    exact ⟨hcomplete, rfl⟩

end Join

/-- The statement of a fragment in a script with `count` more statements in front.  A fragment
without a label is labelled by its index. -/
def Statement.raise (count : Nat) (f : Fragment) (s : Statement) : Statement :=
  { s with
    index := count + s.index
    label := if f.label = none then toString (count + s.index) else s.label }

/-- A fragment that is counted later becomes the same statement with raised numbers. -/
theorem Statement.ofFragment_raised (script : String) (d : Dialect) (count start : Nat)
    (f : Fragment) :
    Statement.ofFragment script d (count + start) f =
      (Statement.ofFragment script d start f).raise count f := by
  cases hlabel : f.label <;> simp [Statement.ofFragment, Statement.raise, hlabel]

/-- Statements that start at another index are raised to it, each by its own fragment. -/
theorem statementsFrom_raised (script : String) (d : Dialect) (count start : Nat)
    (fs : List Fragment) :
    statementsFrom script d (count + start) fs =
      List.zipWith (Statement.raise count) fs (statementsFrom script d start fs) := by
  induction fs generalizing start with
  | nil => rfl
  | cons f fs ih =>
    rw [statementsFrom, statementsFrom, List.zipWith_cons_cons, Statement.ofFragment_raised,
      Nat.add_assoc, ih]

/-- The statements of fragments are numbered on behind others. -/
theorem statementsFrom_append (script : String) (d : Dialect) (start : Nat)
    (fs gs : List Fragment) :
    statementsFrom script d start (fs ++ gs) =
      statementsFrom script d start fs ++ statementsFrom script d (start + fs.length) gs := by
  induction fs generalizing start with
  | nil => rfl
  | cons f fs ih =>
    rw [List.cons_append, statementsFrom, statementsFrom, ih, List.cons_append, List.length_cons,
      Nat.add_assoc, Nat.add_comm 1]

theorem bodies_append (parts rest : List (List Char)) :
    bodies (parts ++ rest) = bodies parts ++ bodies rest := by
  simp [bodies]

/-! ## Compiling -/

/-- Compiling is compositional.  Behind a script that ends in code and a semicolon, the statements
of another script follow with raised indices, which the statements without a label of their own
have for their labels too; or its error follows, with the bytes in front counted. -/
theorem compile_join {a : List Char} (h : (Region.code.after a).isCode = true) (b : List Char)
    (script : String) (d : Dialect) :
    ∃ first, compile script a d = .ok first ∧
      ((∃ parts rest, fragments? b = .ok parts ∧ compile script b d = .ok rest ∧
          rest.length = (bodies parts).length ∧
          compile script (a ++ ';' :: b) d =
            .ok (first ++ List.zipWith (Statement.raise first.length) (bodies parts) rest)) ∨
        ∃ e, compile script b d = .error e ∧
          compile script (a ++ ';' :: b) d = .error (e.shift (byteLength a + 1))) := by
  have ha : fragments? a = .ok (fragmentsFrom .code a) :=
    (fragments?_eq_ok_iff a _).2 ⟨Region.isComplete_of_isCode h, rfl⟩
  refine ⟨_, compile_eq_ok ha script d, ?_⟩
  have hjoin := fragments?_join h b
  cases hb : fragments? b with
  | error e =>
    right
    rw [hb] at hjoin
    exact ⟨e, by simp [compile, hb], by simp [compile, hjoin]⟩
  | ok parts =>
    left
    rw [hb] at hjoin
    have hstatements : statementsFrom script d 0 (bodies (fragmentsFrom .code a ++ parts)) =
        statementsFrom script d 0 (bodies (fragmentsFrom .code a)) ++
          List.zipWith (Statement.raise (bodies (fragmentsFrom .code a)).length) (bodies parts)
            (statementsFrom script d 0 (bodies parts)) := by
      rw [bodies_append, statementsFrom_append, ← statementsFrom_raised, Nat.zero_add, Nat.add_zero]
    refine ⟨parts, _, rfl, compile_eq_ok hb script d, length_statementsFrom _ _ _ _, ?_⟩
    rw [compile_eq_ok hjoin, hstatements, length_statementsFrom]

/-- Statements with and without labels of their own, on both sides. -/
theorem compile_join_labelled :
    (Region.code.after "-- @label: one\nselect 1; select 2 /".toList).isCode = true ∧
      ∃ first, compile "s" "-- @label: one\nselect 1; select 2 /".toList .postgres = .ok first ∧
        ((∃ parts rest, fragments? "* ?x?; -- @label: two\nselect ?y?;".toList = .ok parts ∧
            compile "s" "* ?x?; -- @label: two\nselect ?y?;".toList .postgres = .ok rest ∧
            rest.length = (bodies parts).length ∧
            compile "s" ("-- @label: one\nselect 1; select 2 /".toList ++
                ';' :: "* ?x?; -- @label: two\nselect ?y?;".toList) .postgres =
              .ok (first ++ List.zipWith (Statement.raise first.length) (bodies parts) rest)) ∨
          ∃ e, compile "s" "* ?x?; -- @label: two\nselect ?y?;".toList .postgres = .error e ∧
            compile "s" ("-- @label: one\nselect 1; select 2 /".toList ++
                ';' :: "* ?x?; -- @label: two\nselect ?y?;".toList) .postgres =
              .error (e.shift
                (byteLength "-- @label: one\nselect 1; select 2 /".toList + 1))) := by
  have hcode : (Region.code.after "-- @label: one\nselect 1; select 2 /".toList).isCode = true := by
    decide +kernel
  exact ⟨hcode, compile_join hcode _ "s" .postgres⟩

end SqlRelay
