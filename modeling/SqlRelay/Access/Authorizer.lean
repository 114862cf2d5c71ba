import SqlRelay.Action
import SqlRelay.Error
import SqlRelay.Access.Origin
import SqlRelay.Access.Cache
/-!
# Authorization by token

A token may do what its grants say.  The grants of a token come from a source that is asked for
each token, or else from a fixed list.

Main results:

- Definition `Grant.covers` decides whether a grant allows a request.
- Definition `Authorizer.check` is the whole decision for an object that is not public.
-/

namespace SqlRelay

/-- A request to use an object of a database. -/
structure AccessRequest where
  database : String
  object : String
  operation : Operation
  token : String
  origin : Option String
  referer : Option String
  deriving DecidableEq, Repr

namespace AccessRequest

/-- The hosts that a request says it comes from. -/
def hosts (r : AccessRequest) : List String :=
  [r.origin, r.referer].filterMap (fun raw => raw.bind originHost?)

end AccessRequest

/-- Whether a name in a grant stands for a name in a request. -/
def standsFor (granted wanted : String) : Bool :=
  granted == wanted || granted == "*"

namespace Grant

/-- Whether a grant is for the origin of a request. -/
def allowsOrigin (g : Grant) (r : AccessRequest) : Bool :=
  g.origins.isEmpty ||
    r.hosts.any (fun host => g.origins.any (fun pattern => hostMatches pattern host))

/-- Whether a grant allows a request. -/
def covers (g : Grant) (r : AccessRequest) : Bool :=
  standsFor g.database r.database && g.objects.any (standsFor · r.object) && g.allowsOrigin r &&
    g.permits r.operation

end Grant

/-- Decides a request by the grants of its token. -/
def judge (grants : List Grant) (r : AccessRequest) : Except RelayError Unit :=
  if grants.any (·.covers r) then .ok ()
  else .error (.refused (.notCovered r.database r.object))

/-- Decides a request by the grants found for its token; a token without grants is told no more
than that. -/
def judgeFound (grants : List Grant) (r : AccessRequest) : Except RelayError Unit :=
  if grants.isEmpty then .error (.refused .noGrant) else judge grants r

/-- The state of authorization: the cache, and the state that a source works on. -/
structure AccessState (σ : Type) where
  cache : GrantCache
  world : σ

/-- Where grants come from: a fixed list, and perhaps a source that is asked instead. -/
structure Authorizer (σ : Type) where
  fixed : Fields (List Grant)
  source : Option (String → Action RelayError (AccessState σ) (List Grant))
  caching : Bool

namespace Authorizer

variable {σ : Type}

/-- Changes the cache. -/
def onCache (f : GrantCache → GrantCache) : Action RelayError (AccessState σ) Unit :=
  Action.modify (fun s => { s with cache := f s.cache })

/-- Keeps what the source gave, if there is caching and the ticket of the lookup is still good. -/
def keep (a : Authorizer σ) (ticket : Nat) (token : String) (grants : List Grant)
    (c : GrantCache) : GrantCache :=
  if a.caching then c.store ticket token grants else c

/-- The grants of a token: those that are cached, those of the source, or those of the fixed
list. -/
def grantsOf (a : Authorizer σ) (token : String) :
    Action RelayError (AccessState σ) (List Grant) := do
  match (← Action.get).cache.lookup token with
  | .found grants => pure grants
  | .absent ticket =>
    match a.source with
    | none => pure ((a.fixed.get? token).getD [])
    | some ask =>
      let grants ← ask token
      onCache (a.keep ticket token grants)
      pure grants

/-- Decides a request for an object that is not public. -/
def check (a : Authorizer σ) (r : AccessRequest) : Action RelayError (AccessState σ) Unit := do
  if r.token.isEmpty then Action.fail (.refused .noGrant)
  else Action.ofExcept (judgeFound (← a.grantsOf r.token) r)

/-- Forgets the cached grants of a token, and tells whether there were any. -/
def clear (token : String) : Action RelayError (AccessState σ) Bool := do
  let had := (← Action.get).cache.isCached token
  onCache (·.clear token)
  pure had

end Authorizer
end SqlRelay
