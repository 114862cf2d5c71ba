import SqlRelay.Proofs.Script.Dialects
import SqlRelay.Proofs.Script.Splicing
import SqlRelay.Table.Query
/-!
# Characters of SQL text

The queries on tables are put together from escaped names, placeholders and page clauses.  Each of
them has characters of its own kind.

Main results:

- Theorem `mem_escapeChars`: escaping a text makes no character that was not there.
- Theorems `Dialect.placeholder_eq_cons` and `Dialect.spelled_of_pageClause`: a placeholder is a
  mark with letters and digits behind it, a page clause is made of blanks, letters and digits.
-/

namespace SqlRelay

/-- Doubling quotes adds no other characters. -/
theorem mem_doubleQuotes {c : Char} {cs : List Char} (h : c ∈ doubleQuotes cs) : c ∈ cs := by
  obtain ⟨d, hd, hc⟩ := List.mem_flatMap.1 h
  split at hc
  · rename_i hquote
    have hsame : c = '\'' := by simpa using hc
    exact hsame ▸ hquote ▸ hd
  · exact List.mem_singleton.1 hc ▸ hd

/-- Dropping dash pairs adds no characters. -/
theorem mem_dropDashPairs {c : Char} {cs : List Char} (h : c ∈ dropDashPairs cs) : c ∈ cs := by
  fun_induction dropDashPairs cs with
  | case1 rest ih => exact List.mem_cons_of_mem _ (List.mem_cons_of_mem _ (ih h))
  | case2 d rest hpair ih =>
    rcases List.mem_cons.1 h with rfl | hrest
    · exact List.mem_cons_self
    · exact List.mem_cons_of_mem _ (ih hrest)
  | case3 => exact h

/-- Escaping a text makes no character that was not there. -/
theorem mem_escapeChars {c : Char} {cs : List Char} (h : c ∈ escapeChars cs) : c ∈ cs :=
  mem_doubleQuotes (mem_dropDashPairs h)

/-- A text of blanks, letters and digits. -/
def Spelled (s : String) : Prop :=
  ∀ c ∈ s.toList, c = ' ' ∨ c.isAlphanum = true

instance (s : String) : Decidable (Spelled s) :=
  List.decidableBAll (fun c => c = ' ' ∨ c.isAlphanum = true) s.toList

/-- Spelled texts stay spelled when they are joined. -/
theorem Spelled.append {a b : String} (ha : Spelled a) (hb : Spelled b) : Spelled (a ++ b) := by
  intro c hc
  rw [String.toList_append] at hc
  exact (List.mem_append.1 hc).elim (ha c) (hb c)

theorem isAlphanum_of_mem_toDigits {c : Char} {n : Nat} (h : c ∈ Nat.toDigits 10 n) :
    c.isAlphanum = true := by
  have hdigit := Nat.isDigit_of_mem_toDigits (by decide) (by decide) h
  simp [Char.isAlphanum, hdigit]

/-- A number is spelled. -/
theorem spelled_toString (n : Nat) : Spelled (toString n) := by
  intro c hc
  rw [Nat.toString_eq_repr, Nat.repr_eq_ofList_toDigits, String.toList_ofList] at hc
  exact .inr (isAlphanum_of_mem_toDigits hc)

namespace Dialect

/-- Behind its mark, a placeholder is made of letters and digits. -/
theorem placeholder_eq_cons (d : Dialect) (index : Nat) :
    ∃ mark behind, d.placeholder index = mark :: behind ∧ mark ∈ slotMarks ∧
      ∀ c ∈ behind, c.isAlphanum = true := by
  have hdigits : ∀ c ∈ Nat.toDigits 10 (index + 1), c.isAlphanum = true :=
    fun c => isAlphanum_of_mem_toDigits
  cases d with
  | postgres => exact ⟨'$', _, rfl, by decide, hdigits⟩
  | oracle => exact ⟨':', _, rfl, by decide, hdigits⟩
  | sqlServer =>
    refine ⟨'@', _, rfl, by decide, ?_⟩
    intro c hc
    rcases List.mem_cons.1 hc with rfl | hc
    · decide
    · exact hdigits c hc
  | mySql | sqlite | unknown => exact ⟨'?', [], rfl, by decide, by simp⟩

/-- A page clause is made of blanks, letters and digits. -/
theorem spelled_of_pageClause {d : Dialect} {limit offset : Nat} {clause : String}
    (h : d.pageClause? limit offset = some clause) : Spelled clause := by
  have hlimit : Spelled ("LIMIT " ++ toString limit ++ " OFFSET " ++ toString offset) :=
    have hfront : Spelled ("LIMIT " ++ toString limit) :=
      .append (by decide) (spelled_toString limit)
    (hfront.append (by decide)).append (spelled_toString offset)
  have hfetch : Spelled ("OFFSET " ++ toString offset ++ " ROWS FETCH NEXT " ++ toString limit ++
      " ROWS ONLY") :=
    have hfront : Spelled ("OFFSET " ++ toString offset) :=
      .append (by decide) (spelled_toString offset)
    ((hfront.append (by decide)).append (spelled_toString limit)).append (by decide)
  cases d with
  | postgres | mySql | sqlite => exact Option.some.inj h ▸ hlimit
  | sqlServer | oracle => exact Option.some.inj h ▸ hfetch
  | unknown => exact absurd h (by simp [pageClause?])

end Dialect
end SqlRelay
