import SqlRelay.Proofs.Table.Sending
/-!
# What reads of tables come to

A list is refused if its paging cannot be decided.  Otherwise its rows are fetched, and then its
total if that is wanted; each of the two queries may fail.  A row that is asked for is the first row
of its answer, if there is one.

Main results:

- Theorem `Paging.resolve_error`: paging is refused as bad input only.
- Definitions `Table.Listed` and `Table.Got` are what a list and a row come to.
- Theorems `Table.list_is_listed` and `Table.get_is_got`: they come to nothing else.
-/

namespace SqlRelay

/-- Paging is refused only for a count that is none. -/
theorem Paging.resolve_error {ps : Parameters} {defaults : PagingDefaults} {e : RelayError}
    (h : resolve ps defaults = .error e) : ∃ key, e = .badInput (.count key) := by
  have hcount : ∀ {key e}, countOf ps key = .error e → e = .badInput (.count key) := by
    intro key e hkey
    unfold countOf at hkey
    split at hkey
    · exact absurd hkey (by simp)
    · exact (Except.error.inj hkey).symm
    · exact absurd hkey (by simp)
    · exact absurd hkey (by simp)
  unfold resolve at h
  split at h
  · rename_i hsize
    exact ⟨_, Except.error.inj h ▸ hcount hsize⟩
  · rename_i hoffset
    exact ⟨_, Except.error.inj h ▸ hcount hoffset⟩
  · exact absurd h (by simp)

namespace Table

variable (t : Table) (d : Dialect) (ps : Parameters) (relayPageSize : Nat)

/-- What a list comes to when `replies` are to come: the events, the result, and the answers that
are left. -/
inductive Listed (replies : List Reply) :
    List Event → Except RelayError Json → List Reply → Prop where
  | refused {e : RelayError} (undecided : t.paging ps relayPageSize = .error e) :
      Listed replies [] (.error e) replies
  | failed {paging : Paging} {fault : DatabaseFault}
      (decided : t.paging ps relayPageSize = .ok paging)
      (failed : (nextReply replies).decoded = .error fault) :
      Listed replies [((t.shape d).list ps paging).rows.event] (.error (.database fault))
        replies.tail
  | listed {paging : Paging} {rows : List JsonRow}
      (decided : t.paging ps relayPageSize = .ok paging)
      (decoded : (nextReply replies).decoded = .ok rows)
      (unwanted : ((t.shape d).list ps paging).total = none) :
      Listed replies [((t.shape d).list ps paging).rows.event] (.ok (rowsJson rows)) replies.tail
  | uncounted {paging : Paging} {rows : List JsonRow} {total : Query} {fault : DatabaseFault}
      (decided : t.paging ps relayPageSize = .ok paging)
      (decoded : (nextReply replies).decoded = .ok rows)
      (wanted : ((t.shape d).list ps paging).total = some total)
      (failed : (nextReply replies.tail).decoded = .error fault) :
      Listed replies [((t.shape d).list ps paging).rows.event, total.event]
        (.error (.database fault)) replies.tail.tail
  | counted {paging : Paging} {rows counts : List JsonRow} {total : Query}
      (decided : t.paging ps relayPageSize = .ok paging)
      (decoded : (nextReply replies).decoded = .ok rows)
      (wanted : ((t.shape d).list ps paging).total = some total)
      (counted : (nextReply replies.tail).decoded = .ok counts) :
      Listed replies [((t.shape d).list ps paging).rows.event, total.event]
        (.ok (page paging (totalOf counts) rows)) replies.tail.tail

/-- Every list comes to one of these. -/
theorem list_is_listed (s : Session) :
    ∃ events result left, t.list d ps relayPageSize s = (result, s.after events left) ∧
      t.Listed d ps relayPageSize s.replies events result left := by
  unfold list
  cases hpaging : t.paging ps relayPageSize with
  | error e => exact ⟨[], _, s.replies, by simp [Action.bind_apply], .refused hpaging⟩
  | ok paging =>
    simp only [Action.bind_apply, Action.ofExcept_apply, Session.fetch_eq]
    cases hrows : (nextReply s.replies).decoded with
    | error fault => exact ⟨_, _, _, rfl, .failed hpaging hrows⟩
    | ok rows =>
      cases htotal : ((t.shape d).list ps paging).total with
      | none => exact ⟨_, _, _, rfl, .listed hpaging hrows htotal⟩
      | some total =>
        simp only [acceptedResult_ok, Action.bind_apply, Session.fetch_eq, Session.after_replies,
          Session.after_after]
        cases hcounted : (nextReply s.replies.tail).decoded with
        | error fault => exact ⟨_, _, _, rfl, .uncounted hpaging hrows htotal hcounted⟩
        | ok counts => exact ⟨_, _, _, rfl, .counted hpaging hrows htotal hcounted⟩

/-- What asking for the row of a key comes to. -/
inductive Got (key : String) (replies : List Reply) :
    List Event → Except RelayError Json → List Reply → Prop where
  | failed {fault : DatabaseFault} (failed : (nextReply replies).decoded = .error fault) :
      Got key replies [((t.shape d).get key).event] (.error (.database fault)) replies.tail
  | noRow (decoded : (nextReply replies).decoded = .ok []) :
      Got key replies [((t.shape d).get key).event] (.error (.missing (.row key t.id)))
        replies.tail
  | found {row : JsonRow} {rows : List JsonRow}
      (decoded : (nextReply replies).decoded = .ok (row :: rows)) :
      Got key replies [((t.shape d).get key).event] (.ok (.object row)) replies.tail

/-- Every row that is asked for comes to one of these. -/
theorem get_is_got (key : String) (s : Session) :
    ∃ events result left,
      t.perform d (.get key) ps relayPageSize s = (result, s.after events left) ∧
        t.Got d key s.replies events result left := by
  simp only [perform, get, Action.bind_apply, Session.fetch_eq]
  cases hdecoded : (nextReply s.replies).decoded with
  | error fault => exact ⟨_, _, _, rfl, .failed hdecoded⟩
  | ok rows =>
    cases rows with
    | nil => exact ⟨_, _, _, rfl, .noRow hdecoded⟩
    | cons row rows => exact ⟨_, _, _, rfl, .found hdecoded⟩

end Table
end SqlRelay
