import SqlRelay.Access.Authorizer
/-!
# Listed grants

A source whose answers are listed in advance.  While it is asked other tokens may be cleared, as
happens when several requests are under way.

Main results:

- Definition `Listed.ask` is the source, which counts how often it is asked.
-/

namespace SqlRelay

/-- What is listed for each token: grants, or the reason why there are none to be had. -/
abbrev ListedGrants := Fields (Except String (List Grant))

namespace Listed

/-- How often the source was asked, and the tokens that are cleared while it is asked next. -/
structure Progress where
  asked : Nat
  clearing : List String

/-- Counts a question, and clears the tokens that are to be cleared meanwhile. -/
def interrupted (s : AccessState Progress) : AccessState Progress :=
  { cache := s.world.clearing.foldl GrantCache.clear s.cache
    world := ⟨s.world.asked + 1, []⟩ }

/-- Asks for the grants of a token; a token that is not listed has none. -/
def ask (listed : ListedGrants) (token : String) :
    Action RelayError (AccessState Progress) (List Grant) := do
  Action.modify interrupted
  match listed.get? token with
  | some (.ok grants) => pure grants
  | some (.error reason) => Action.fail (.missing (.grants reason))
  | none => pure []

end Listed
end SqlRelay
