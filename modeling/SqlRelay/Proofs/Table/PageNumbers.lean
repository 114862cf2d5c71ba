import Mathlib.Logic.Function.Basic
import SqlRelay.Proofs.Parameter.Counts
import SqlRelay.Table.Paging
/-!
# Paging numbers of query and body

The page size and the first row of a list are counts, and a request may give them in its query or in
its body.  In the query a count is exact or refused.  In the body the same number may be rounded, and
it is capped where it had to be refused, so the two do not always mean the same.

Main results:

- Definition `Paging.withCount`: the paging of some parameters with another count of one key.
- Theorems `Paging.resolve_query` and `Paging.resolve_body`: the paging with a count in the query
  and in the body.
- Theorem `Paging.query_and_body_agree_iff`: the counts that mean the same in both.
-/

namespace SqlRelay.Paging

/-- The names of the counts. -/
def countKeys : List String :=
  [pageSizeKey, offsetKey]

/-- The result of a count. -/
def counted (key : String) : Parameter.Count → Except RelayError Nat
  | .given n => .ok n
  | .notGiven => .ok 0
  | .invalid => .error (.badInput (.count key))

/-- The count of a number that is neither rounded nor capped: it fits into sixty-four bits or is
refused. -/
def exactCount (key : String) (n : Nat) : Except RelayError Nat :=
  if n < 2 ^ 64 then .ok n else .error (.badInput (.count key))

/-- The paging of some parameters for two counts.  A page size of zero leaves the choice to the
table and the relay. -/
def ofCounts (size offset : Except RelayError Nat) (ps : Parameters) (defaults : PagingDefaults) :
    Except RelayError Paging :=
  match size, offset with
  | .error e, _ => .error e
  | .ok _, .error e => .error e
  | .ok size, .ok offset =>
    .ok {
      pageSize := firstPositive [size, defaults.pageSize, defaults.relayPageSize]
      offset := offset
      orderBy := orderOf ps defaults.orderBy
      showTotal := ((ps.get? totalKey).bind Parameter.flag?).getD defaults.showTotal }

/-- The paging of some parameters with another count of one key. -/
def withCount (key : String) (count : Except RelayError Nat) (ps : Parameters)
    (defaults : PagingDefaults) : Except RelayError Paging :=
  ofCounts (Function.update (countOf ps) key count pageSizeKey)
    (Function.update (countOf ps) key count offsetKey) ps defaults

/-- Paging depends on the page size and the offset by their counts only. -/
theorem resolve_eq_ofCounts (ps : Parameters) (defaults : PagingDefaults) :
    resolve ps defaults = ofCounts (countOf ps pageSizeKey) (countOf ps offsetKey) ps defaults :=
  rfl

section Set

variable {key : String} {value : Parameter} {ps base : Parameters}

/-- The count of a parameter that is given. -/
theorem countOf_of_get? (h : ps.get? key = some value) :
    countOf ps key = counted key value.count := by
  rw [countOf, h]
  cases hcount : value.count <;> simp [hcount, counted]

/-- A count depends on the parameter of its name only. -/
theorem countOf_congr {name : String} (h : ps.get? name = base.get? name) :
    countOf ps name = countOf base name := by
  rw [countOf, countOf, h]

/-- Setting one count changes nothing else. -/
theorem resolve_of_set (hkey : key ∈ countKeys) (hself : ps.get? key = some value)
    (hother : ∀ name, name ≠ key → ps.get? name = base.get? name) (defaults : PagingDefaults) :
    resolve ps defaults = withCount key (counted key value.count) base defaults := by
  have hcounts : countOf ps = Function.update (countOf base) key (counted key value.count) := by
    funext name
    by_cases hname : name = key
    · subst hname
      rw [Function.update_self, countOf_of_get? hself]
    · rw [Function.update_of_ne hname, countOf_congr (hother name hname)]
  have horder : ps.get? orderKey = base.get? orderKey := by
    apply hother
    rintro rfl
    exact absurd hkey (by decide)
  have htotal : ps.get? totalKey = base.get? totalKey := by
    apply hother
    rintro rfl
    exact absurd hkey (by decide)
  rw [resolve_eq_ofCounts, withCount, ← hcounts]
  simp only [ofCounts, orderOf, horder, htotal]

end Set

/-! ## Counts in query and body -/

section Merged

variable {key : String} (hkey : key ∈ countKeys) (query : List (String × String))
  (defaults : PagingDefaults)

include hkey

/-- A count in the query is exact or refused, if the body does not give it. -/
theorem resolve_query (n : Nat) {body : List (String × Json)}
    (hbody : ∀ member ∈ body, member.1 ≠ key) :
    resolve (Parameters.merge (query ++ [(key, toString n)]) body) defaults =
      withCount key (exactCount key n) (Parameters.merge query body) defaults := by
  have hcount : counted key (Parameter.ofQuery (toString n)).count = exactCount key n := by
    rw [Parameter.count_ofQuery, exactCount]
    split <;> rfl
  rw [← hcount]
  have hnone : body.reverse.find? (fun member => member.1 == key) = none := by
    simpa using fun name value hmem => hbody (name, value) hmem
  refine resolve_of_set hkey ?_ ?_ defaults
  · simp [Parameters.get?_merge, hnone]
  · intro name hname
    simp [Parameters.get?_merge, Ne.symm hname]

/-- A count in the body is read as its parameter is. -/
theorem resolve_body (body : List (String × Json)) (v : Json) :
    resolve (Parameters.merge query (body ++ [(key, v)])) defaults =
      withCount key (counted key (Parameter.ofJson v).count) (Parameters.merge query body)
        defaults := by
  refine resolve_of_set hkey ?_ ?_ defaults
  · simp [Parameters.get?_merge]
  · intro name hname
    simp [Parameters.get?_merge, Ne.symm hname]

end Merged

/-- A size of zero is passed over. -/
theorem firstPositive_cons (n : Nat) (sizes : List Nat) :
    firstPositive (n :: sizes) = if 0 < n then n else firstPositive sizes := by
  by_cases hn : 0 < n <;> simp [firstPositive, hn]

/-- The paging for all defaults shows what a count is. -/
theorem withCount_injective {key : String} (hkey : key ∈ countKeys)
    {count count' : Except RelayError Nat}
    (h : ∀ defaults, withCount key count [] defaults = withCount key count' [] defaults) :
    count = count' := by
  have hzero : ∀ name, countOf [] name = .ok 0 := fun _ => rfl
  have hdistinct : offsetKey ≠ pageSizeKey := by decide
  obtain rfl | rfl : key = pageSizeKey ∨ key = offsetKey := by simpa [countKeys] using hkey
  · simp only [withCount, Function.update_self, Function.update_of_ne hdistinct, hzero] at h
    cases count with
    | error e =>
      cases count' with
      | error e' => simpa [ofCounts] using h ⟨0, "", false, 0⟩
      | ok n' => exact absurd (h ⟨0, "", false, 0⟩) (by simp [ofCounts])
    | ok n =>
      cases count' with
      | error e' => exact absurd (h ⟨0, "", false, 0⟩) (by simp [ofCounts])
      | ok n' =>
        -- a page size of the table that neither of the two counts is
        have hsize := h ⟨n + n' + 1, "", false, 0⟩
        simp only [ofCounts, firstPositive_cons, Except.ok.injEq, Paging.mk.injEq] at hsize
        congr 1
        split_ifs at hsize <;> omega
  · simp only [withCount, Function.update_self, Function.update_of_ne hdistinct.symm, hzero] at h
    have hoffset := h ⟨0, "", false, 0⟩
    cases count <;> cases count' <;> simp_all [ofCounts]

/-- The counts in the body that are read exactly or refused as in the query. -/
theorem counted_ofJson_eq_iff (key : String) {n : Nat} {v : Json} (hv : Json.Writes n v) :
    counted key (Parameter.ofJson v).count = exactCount key n ↔
      n < 2 ^ 63 ∨ (n < 2 ^ 64 ∧ (2048 ∣ n ∨ n = 2 ^ 64 - 1)) ∨
        Parameter.ofJson v = .float (Double.infinity false) := by
  obtain hcount | ⟨hlarge, hinfinite, hcount⟩ := Parameter.count_ofJson hv
  · have hfinite : Parameter.ofJson v ≠ .float (Double.infinity false) := by
      intro hinfinite
      have hinvalid : (Parameter.float (Double.infinity false)).count = .invalid := by decide
      rw [hinfinite, hinvalid] at hcount
      exact absurd hcount (by simp)
    rw [hcount, counted, exactCount]
    by_cases hword : n < 2 ^ 64
    · have hkept := Parameter.roundedCount_eq_iff hword
      rw [if_pos hword, Except.ok.injEq, hkept]
      simp only [hfinite, or_false]
      omega
    · rw [if_neg hword]
      simp only [hfinite, or_false, reduceCtorEq, false_iff]
      omega
  · rw [hcount, counted, exactCount, if_neg (by omega)]
    simp [hinfinite]

/-- A count in the query is exact, or refused if it does not fit into sixty-four bits.  The same
number in the body leads to the same paging, whatever else is given, exactly if it fits into
sixty-three bits, if it fits into sixty-four and is a multiple of 2048 or the greatest, or if its
double is infinite.  Otherwise it is never refused but is rounded and capped. -/
theorem query_and_body_agree_iff {key : String} (hkey : key ∈ countKeys) {n : Nat} {v : Json}
    (hv : Json.Writes n v) :
    (∀ query body defaults, (∀ member ∈ body, member.1 ≠ key) →
      resolve (Parameters.merge (query ++ [(key, toString n)]) body) defaults =
        withCount key (exactCount key n) (Parameters.merge query body) defaults) ∧
    ((∀ query body defaults, (∀ member ∈ body, member.1 ≠ key) →
      resolve (Parameters.merge (query ++ [(key, toString n)]) body) defaults =
        resolve (Parameters.merge query (body ++ [(key, v)])) defaults) ↔
      n < 2 ^ 63 ∨ (n < 2 ^ 64 ∧ (2048 ∣ n ∨ n = 2 ^ 64 - 1)) ∨
        Parameter.ofJson v = .float (Double.infinity false)) ∧
    (Parameter.ofJson v ≠ .float (Double.infinity false) → ∀ query body defaults,
      resolve (Parameters.merge query (body ++ [(key, v)])) defaults =
        withCount key (.ok (Parameter.roundedCount n)) (Parameters.merge query body) defaults) := by
  have hbody := fun query body defaults => resolve_body hkey query defaults body v
  refine ⟨fun query body defaults hnone => resolve_query hkey query defaults n hnone, ?_, ?_⟩
  · rw [← counted_ofJson_eq_iff key hv]
    constructor
    · intro hsame
      refine (withCount_injective hkey fun defaults => ?_).symm
      have hempty := hsame [] [] defaults (by simp)
      rwa [resolve_query hkey _ _ n (by simp), hbody] at hempty
    · intro hexact query body defaults hnone
      rw [resolve_query hkey _ _ n hnone, hbody, hexact]
  · intro hfinite query body defaults
    obtain hcount | ⟨-, hinfinite, -⟩ := Parameter.count_ofJson hv
    · rw [hbody, hcount, counted]
    · exact absurd hinfinite hfinite

/-- The greatest number of sixty-four bits is rounded up and capped to itself again. -/
theorem greatestCount_agrees :
    offsetKey ∈ countKeys ∧ Json.Writes (2 ^ 64 - 1) (.int (2 ^ 64 - 1 : Nat)) ∧
    ∀ query body defaults, (∀ member ∈ body, member.1 ≠ offsetKey) →
      resolve (Parameters.merge (query ++ [(offsetKey, toString (2 ^ 64 - 1))]) body) defaults =
        resolve (Parameters.merge query (body ++ [(offsetKey, .int (2 ^ 64 - 1 : Nat))]))
          defaults := by
  have hkey : offsetKey ∈ countKeys := by decide
  have hwrites : Json.Writes (2 ^ 64 - 1) (.int (2 ^ 64 - 1 : Nat)) := .itself
  exact ⟨hkey, hwrites,
    (query_and_body_agree_iff hkey hwrites).2.1.2 (.inr (.inl ⟨by decide, .inr rfl⟩))⟩

/-- The least number that does not fit into sixty-four bits is read as a double. -/
theorem ofText?_wordLimit :
    Json.ofText? "18446744073709551616" = some (.double ⟨0x43F0000000000000⟩) := by
  have htext : "18446744073709551616" = toString (2 ^ 64) := by decide +kernel
  have hleading : (Nat.toDigits 10 (2 ^ 64)).foldl Json.Leading.wholeDigit ⟨0, 0, false⟩ =
      ⟨1844674407370955161, 1, true⟩ := rfl
  have hscaled : Double.scaled (Double.ofNat 1844674407370955161) 1 =
      some ⟨0x43F0000000000000⟩ := by
    rw [Double.scaled]
    decide +kernel
  rw [htext, Json.ofText?_toString_of_not_le (by decide) hleading, hscaled]
  rfl

/-- A number beyond sixty-four bits is refused in the query and capped in the body, and one below
them loses its last bit in the body. -/
theorem body_caps_and_rounds :
    resolve (Parameters.merge [(offsetKey, "18446744073709551616")] []) ⟨0, "", false, 0⟩ =
      .error (.badInput (.count offsetKey)) ∧
    (∃ v, Json.ofText? "18446744073709551616" = some v ∧
      resolve (Parameters.merge [] [(offsetKey, v)]) ⟨0, "", false, 0⟩ =
        .ok ⟨100, 18446744073709551615, none, false⟩) ∧
    resolve (Parameters.merge [(offsetKey, "9223372036854775809")] []) ⟨0, "", false, 0⟩ =
      .ok ⟨100, 9223372036854775809, none, false⟩ ∧
    resolve (Parameters.merge [] [(offsetKey, .int 9223372036854775809)]) ⟨0, "", false, 0⟩ =
      .ok ⟨100, 9223372036854775808, none, false⟩ :=
  ⟨by decide +kernel, ⟨_, ofText?_wordLimit, by decide +kernel⟩, by decide +kernel,
    by decide +kernel⟩

end SqlRelay.Paging
