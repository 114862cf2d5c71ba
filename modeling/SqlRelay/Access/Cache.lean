import SqlRelay.Access.Grant
/-!
# The cache of grants

Grants that a source gave for a token are kept until the token is cleared.  The cache is used in
sections that each happen at once: a lookup that finds nothing gets a ticket with the number of
clears so far, and what the source gave is stored under this ticket only if nothing was cleared
since.

Main results:

- Definitions `GrantCache.lookup`, `store` and `clear` are the sections.
- Theorem `isCached_clear_self`: a cleared token is not cached.
- Theorem `lookup_store_self`: what is stored under a fresh ticket is found.
- Theorem `store_of_stale`: a stale ticket stores nothing.
-/

namespace SqlRelay

/-- Grants by token, and the number of clears so far.

The program counts clears in sixty-four bits.  A ticket is compared with the count when its lookup
ends, so counting without a limit decides the same: for a difference, 2^64 clears would have to
happen during that one lookup. -/
structure GrantCache where
  entries : Fields (List Grant)
  clears : Nat

/-- What a lookup finds: grants, or nothing and a ticket to store some later. -/
inductive CacheLookup where
  | found (grants : List Grant)
  | absent (ticket : Nat)
  deriving DecidableEq

namespace GrantCache

/-- Nothing is kept yet. -/
def empty : GrantCache := ⟨[], 0⟩

/-- Whether grants are kept for a token. -/
def isCached (c : GrantCache) (token : String) : Bool :=
  (c.entries.get? token).isSome

/-- Looks a token up. -/
def lookup (c : GrantCache) (token : String) : CacheLookup :=
  match c.entries.get? token with
  | some grants => .found grants
  | none => .absent c.clears

/-- Keeps grants for a token, unless there was a clear since the ticket was given. -/
def store (c : GrantCache) (ticket : Nat) (token : String) (grants : List Grant) : GrantCache :=
  if c.clears = ticket then { c with entries := c.entries.put token grants } else c

/-- Forgets the grants of a token. -/
def clear (c : GrantCache) (token : String) : GrantCache :=
  ⟨c.entries.erase token, c.clears + 1⟩

/-- A cleared token is not cached. -/
theorem isCached_clear_self (c : GrantCache) (token : String) :
    (c.clear token).isCached token = false := by
  simp [isCached, clear]

/-- Clearing a token leaves the other ones cached or not as they were. -/
theorem isCached_clear_of_ne (c : GrantCache) {token other : String} (h : other ≠ token) :
    (c.clear token).isCached other = c.isCached other := by
  simp [isCached, clear, Fields.get?_erase_of_ne _ h]

/-- What is stored under a fresh ticket is found. -/
theorem lookup_store_self (c : GrantCache) (token : String) (grants : List Grant) :
    (c.store c.clears token grants).lookup token = .found grants := by
  simp [store, lookup]

/-- A stale ticket stores nothing. -/
theorem store_of_stale (c : GrantCache) {ticket : Nat} (token : String) (grants : List Grant)
    (h : c.clears ≠ ticket) : c.store ticket token grants = c := by
  simp [store, h]

end GrantCache
end SqlRelay
