import IdentityProof.Root.Basic

/-!
The root that a verifier keeps for a while. Time is any type with a difference and an order.
-/

namespace IdentityProof

/-- A root with the time at which it was asked for. -/
structure CachedRoot (τ : Type) where
  root : Root
  fetchedAt : τ
  deriving DecidableEq, Repr

/-- The entry serves until its lifetime has passed. -/
def CachedRoot.isFresh {τ : Type} [Sub τ] [LT τ] [DecidableLT τ] (entry : CachedRoot τ)
    (lifetime now : τ) : Bool :=
  now - entry.fetchedAt < lifetime

def CachedRoot.serve? {τ : Type} [Sub τ] [LT τ] [DecidableLT τ] (cache : Option (CachedRoot τ))
    (lifetime now : τ) : Option Root :=
  match cache with
  | some entry => if entry.isFresh lifetime now then some entry.root else none
  | none => none

end IdentityProof
