import Mathlib.Algebra.Group.Nat.Even
import SqlRelay.Proofs.Sql.Characters
/-!
# Sealed text

Escaped names are joined with keywords, commas and placeholders.  Escaping leaves no two dashes in a
row and every run of single quotes even; what is left to see is that no dashes meet and no run gets
odd where texts are joined.  Runs never do, since two even runs that meet make an even one.  Dashes
do not meet if every other text is a separator, which holds neither dashes nor quotes.

Main results:

- Definition `Sealed`: a text without two dashes in a row, with even runs of single quotes only.
- Theorems `Paired.evenRuns` and `EvenRuns.paired`: all runs are even exactly if quotes stand in
  pairs.
- Theorem `sealed_escapeSql`: escaped text is sealed.
- Theorems `Sealed.append` and `Sealed.between`: what is joined stays sealed.
-/

namespace SqlRelay

/-- Every longest run of single quotes has an even length. -/
def EvenRuns (cs : List Char) : Prop :=
  ∀ (before after : List Char) (count : Nat),
    cs = before ++ List.replicate count '\'' ++ after →
      before.getLast? ≠ some '\'' → after.head? ≠ some '\'' → Even count

/-- Single quotes stand in pairs. -/
inductive Paired : List Char → Prop
  | nil : Paired []
  | other {c : Char} {cs : List Char} (hc : c ≠ '\'') (rest : Paired cs) : Paired (c :: cs)
  | pair {cs : List Char} (rest : Paired cs) : Paired ('\'' :: '\'' :: cs)

theorem even_add_two_iff (n : Nat) : Even (n + 2) ↔ Even n := by
  rw [Nat.even_iff, Nat.even_iff, Nat.add_mod_right]

/-- Paired texts stay paired when they are joined. -/
theorem Paired.append {a b : List Char} (ha : Paired a) (hb : Paired b) : Paired (a ++ b) := by
  induction ha with
  | nil => exact hb
  | other hc _ ih => exact .other hc ih
  | pair _ ih => exact .pair ih

/-- A paired text has an even number of quotes. -/
theorem Paired.even_count {cs : List Char} (h : Paired cs) : Even (cs.count '\'') := by
  induction h with
  | nil => exact Even.zero
  | other hc _ ih => rwa [List.count_cons_of_ne hc]
  | pair _ ih => rwa [List.count_cons_self, List.count_cons_self, even_add_two_iff]

/-- A character that is put in front of a text is in front of all runs in it. -/
theorem getLast?_of_cons {c : Char} {cs : List Char} (h : (c :: cs).getLast? ≠ some '\'') :
    cs.getLast? ≠ some '\'' := by
  cases cs with
  | nil => simp
  | cons d cs => rwa [List.getLast?_cons_cons] at h

/-- All runs of quotes of a paired text are even. -/
theorem Paired.evenRuns {cs : List Char} (h : Paired cs) : EvenRuns cs := by
  induction h with
  | nil =>
    intro before after count htext _ _
    have hnone : count = 0 := by
      simpa using (List.append_eq_nil_iff.1 (List.append_eq_nil_iff.1 htext.symm).1).2
    exact hnone ▸ Even.zero
  | @other c cs hc _ ih =>
    intro before after count htext hbefore hafter
    cases before with
    | nil =>
      cases count with
      | zero => exact Even.zero
      | succ count => exact absurd (List.cons.inj htext).1 hc
    | cons b before =>
      exact ih before after count (List.cons.inj htext).2 (getLast?_of_cons hbefore) hafter
  | @pair cs _ ih =>
    intro before after count htext hbefore hafter
    match before, count with
    | [], 0 => exact Even.zero
    | [], 1 =>
      have hrest : '\'' :: cs = after := (List.cons.inj htext).2
      simp [← hrest] at hafter
    | [], count + 2 =>
      have hrest : cs = List.replicate count '\'' ++ after :=
        (List.cons.inj (List.cons.inj htext).2).2
      exact (even_add_two_iff count).2 (ih [] after count hrest (by simp) hafter)
    | [b], _ => exact absurd (congrArg some (List.cons.inj htext).1.symm) hbefore
    | b :: b' :: before, count =>
      have hrest : cs = before ++ List.replicate count '\'' ++ after :=
        (List.cons.inj (List.cons.inj htext).2).2
      exact ih before after count hrest (getLast?_of_cons (getLast?_of_cons hbefore)) hafter

/-- A run behind another character is a run of the whole text. -/
theorem EvenRuns.of_cons {c : Char} {cs : List Char} (h : EvenRuns (c :: cs)) (hc : c ≠ '\'') :
    EvenRuns cs := by
  intro before after count htext hbefore hafter
  refine h (c :: before) after count (by simp [htext]) ?_ hafter
  cases before with
  | nil => simpa using hc
  | cons b before => rwa [List.getLast?_cons_cons]

/-- A run goes on behind a pair of quotes. -/
theorem EvenRuns.of_pair {cs : List Char} (h : EvenRuns ('\'' :: '\'' :: cs)) : EvenRuns cs := by
  intro before after count htext hbefore hafter
  cases before with
  | nil =>
    have hrun : Even (count + 2) :=
      h [] after (count + 2) (by simp [htext, List.replicate_succ]) (by simp) hafter
    exact (even_add_two_iff count).1 hrun
  | cons b before =>
    exact h ('\'' :: '\'' :: b :: before) after count (by simp [htext])
      (by simpa [List.getLast?_cons_cons] using hbefore) hafter

/-- A text whose runs of quotes are even is paired. -/
theorem EvenRuns.paired {cs : List Char} (h : EvenRuns cs) : Paired cs := by
  match cs with
  | [] => exact .nil
  | [c] =>
    have hc : c ≠ '\'' := by
      rintro rfl
      exact absurd (h [] [] 1 rfl (by simp) (by simp)) (by decide)
    exact .other hc .nil
  | c :: d :: cs =>
    by_cases hc : c = '\''
    · by_cases hd : d = '\''
      · subst hc hd
        exact .pair h.of_pair.paired
      · subst hc
        exact absurd (h [] (d :: cs) 1 rfl (by simp) (by simpa using hd)) (by decide)
    · exact .other hc (h.of_cons hc).paired
termination_by cs.length

/-! ## Sealed text -/

/-- A text that begins no line comment and leaves no literal of single quotes open, since all runs of
quotes in it are even. -/
structure Sealed (s : String) : Prop where
  uncommented : ¬ ['-', '-'] <:+: s.toList
  evenRuns : EvenRuns s.toList
  closed : Even (s.toList.count '\'')

/-- A text is sealed if it has no two dashes in a row and its quotes are paired. -/
theorem sealed_iff (s : String) : Sealed s ↔ ¬ ['-', '-'] <:+: s.toList ∧ Paired s.toList := by
  constructor
  · intro h
    exact ⟨h.uncommented, h.evenRuns.paired⟩
  · rintro ⟨uncommented, paired⟩
    exact ⟨uncommented, paired.evenRuns, paired.even_count⟩

/-- Doubled quotes are paired. -/
theorem paired_doubleQuotes (cs : List Char) : Paired (doubleQuotes cs) := by
  induction cs with
  | nil => exact .nil
  | cons c cs ih =>
    rw [doubleQuotes_cons]
    split
    · exact .pair ih
    · rename_i hc
      exact .other hc ih

/-- Nothing with two dashes in a row is left. -/
theorem dropDashPairs_uncommented (cs : List Char) : ¬ ['-', '-'] <:+: dropDashPairs cs := by
  fun_induction dropDashPairs cs with
  | case1 rest ih => exact ih
  | case2 c rest hpair ih =>
    rw [List.infix_cons_iff, not_or]
    refine ⟨?_, ih⟩
    rw [List.cons_prefix_cons]
    rintro ⟨rfl, hprefix⟩
    -- a dash that was kept has no dash behind it, and that is so after the dropping, too
    cases rest with
    | nil => simp [dropDashPairs] at hprefix
    | cons d rest =>
      have hd : d ≠ '-' := by
        rintro rfl
        exact hpair rest rfl rfl
      rw [dropDashPairs_cons_of_ne hd, List.cons_prefix_cons] at hprefix
      exact hd hprefix.1.symm
  | case3 => simp

/-- Escaped text is sealed. -/
theorem sealed_escapeSql (s : String) : Sealed (escapeSql s) := by
  rw [sealed_iff, escapeSql, String.toList_ofList]
  constructor
  · exact dropDashPairs_uncommented _
  · rw [escapeChars, dropDashPairs_doubleQuotes]
    exact paired_doubleQuotes _

/-! ## Joined text -/

/-- Sealed texts may be joined where no two dashes meet. -/
theorem Sealed.append {a b : String} (ha : Sealed a) (hb : Sealed b)
    (meet : a.toList.getLast? ≠ some '-' ∨ b.toList.head? ≠ some '-') : Sealed (a ++ b) := by
  rw [sealed_iff] at ha hb ⊢
  rw [String.toList_append]
  refine ⟨?_, ha.2.append hb.2⟩
  rw [List.infix_append_iff]
  rintro (left | right | ⟨front, behind, hsplit, hfront, hbehind⟩)
  · exact ha.1 left
  · exact hb.1 right
  · match front, behind with
    | [], _ => exact hb.1 (hsplit ▸ hbehind.isInfix)
    | [c], behind =>
      obtain ⟨rfl, rfl⟩ : '-' = c ∧ ['-'] = behind := by simpa using hsplit
      rcases meet with hlast | hhead
      · obtain ⟨_, hlist⟩ := hfront
        exact hlast (by simp [← hlist])
      · obtain ⟨_, hlist⟩ := hbehind
        exact hhead (by simp [← hlist])
    | c :: c' :: front, behind =>
      obtain ⟨rfl, rfl, rfl, rfl⟩ : '-' = c ∧ '-' = c' ∧ front = [] ∧ behind = [] := by
        simpa using hsplit
      exact ha.1 hfront.isInfix

/-- A text without dashes and single quotes. -/
def Plain (s : String) : Prop :=
  ∀ c ∈ s.toList, c ≠ '-' ∧ c ≠ '\''

instance (s : String) : Decidable (Plain s) :=
  List.decidableBAll (fun c => c ≠ '-' ∧ c ≠ '\'') s.toList

/-- A plain text to be put between others. -/
structure Separator (s : String) : Prop where
  nonempty : s ≠ ""
  plain : Plain s

instance (s : String) : Decidable (Separator s) :=
  decidable_of_iff (s ≠ "" ∧ Plain s) ⟨fun h => ⟨h.1, h.2⟩, fun h => ⟨h.nonempty, h.plain⟩⟩

theorem paired_of_not_mem {cs : List Char} (h : '\'' ∉ cs) : Paired cs := by
  induction cs with
  | nil => exact .nil
  | cons c cs ih =>
    have hc : c ≠ '\'' := Ne.symm (List.ne_of_not_mem_cons h)
    exact .other hc (ih (List.not_mem_of_not_mem_cons h))

/-- Plain text is sealed. -/
theorem sealed_of_plain {s : String} (plain : Plain s) : Sealed s := by
  rw [sealed_iff]
  constructor
  · intro marked
    exact (plain '-' (marked.subset (by simp))).1 rfl
  · exact paired_of_not_mem (fun hmem => (plain '\'' hmem).2 rfl)

theorem sealed_empty : Sealed "" :=
  sealed_of_plain (by decide)

section Join

variable {a b separator : String} (hseparator : Separator separator)

include hseparator

/-- A separator is sealed. -/
theorem Separator.sealed : Sealed separator :=
  sealed_of_plain hseparator.plain

/-- A separator keeps the dashes of the texts around it apart. -/
theorem Sealed.between (ha : Sealed a) (hb : Sealed b) : Sealed (a ++ separator ++ b) := by
  have hhead : separator.toList.head? ≠ some '-' := by
    intro hdash
    exact (hseparator.plain '-' (List.mem_of_mem_head? hdash)).1 rfl
  have hlast : (a ++ separator).toList.getLast? ≠ some '-' := by
    have hsome : separator.toList ≠ [] := by
      simpa using hseparator.nonempty
    rw [String.toList_append, List.getLast?_append_of_ne_nil _ hsome]
    intro hdash
    exact (hseparator.plain '-' (List.mem_of_getLast? hdash)).1 rfl
  exact (ha.append hseparator.sealed (.inr hhead)).append hb (.inl hlast)

/-- A separator may stand in front of a sealed text. -/
theorem Sealed.led (hb : Sealed b) : Sealed (separator ++ b) := by
  have hjoined : Sealed ("" ++ separator ++ b) := .between hseparator sealed_empty hb
  rwa [String.empty_append] at hjoined

/-- A separator may stand behind a sealed text. -/
theorem Sealed.ended (ha : Sealed a) : Sealed (a ++ separator) := by
  have hjoined : Sealed (a ++ separator ++ "") := .between hseparator ha sealed_empty
  rwa [String.append_empty] at hjoined

/-- Sealed texts may be listed with separators between them. -/
theorem sealed_intercalate {texts : List String} (h : ∀ text ∈ texts, Sealed text) :
    Sealed (separator.intercalate texts) := by
  induction texts with
  | nil => simpa using sealed_empty
  | cons text texts ih =>
    have hrest : Sealed (separator.intercalate texts) :=
      ih (fun other hother => h other (List.mem_cons_of_mem _ hother))
    by_cases hnone : texts = []
    · subst hnone
      simpa using h text List.mem_cons_self
    · rw [String.intercalate_cons_of_ne_nil hnone]
      exact .between hseparator (h text List.mem_cons_self) hrest

/-- Sealed texts may be added with a separator before each. -/
theorem Sealed.append_join {texts : List String} (ha : Sealed a) (h : ∀ text ∈ texts, Sealed text) :
    Sealed (a ++ String.join (texts.map (separator ++ ·))) := by
  induction texts generalizing a with
  | nil => simpa using ha
  | cons text texts ih =>
    rw [List.map_cons, String.join_cons, ← String.append_assoc, ← String.append_assoc]
    have hfirst : Sealed (a ++ separator ++ text) :=
      .between hseparator ha (h text List.mem_cons_self)
    exact ih hfirst (fun other hother => h other (List.mem_cons_of_mem _ hother))

end Join

/-- Sealed texts may be added each with a separator of its own behind it. -/
theorem Sealed.foldl_append {a separator : String} {parts : List (String × String)} (ha : Sealed a)
    (hseparator : Separator separator) (h : ∀ part ∈ parts, Sealed part.1 ∧ Separator part.2) :
    Sealed (parts.foldl (fun text part => text ++ part.1 ++ part.2) (a ++ separator)) := by
  induction parts generalizing a separator with
  | nil => exact ha.ended hseparator
  | cons part parts ih =>
    obtain ⟨hname, hbehind⟩ := h part List.mem_cons_self
    exact ih (.between hseparator ha hname) hbehind
      (fun other hother => h other (List.mem_cons_of_mem _ hother))

end SqlRelay
