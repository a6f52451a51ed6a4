import ArgGuard.Interception.Resolver

/-!
# The resolvers of a schema

A resolver map holds the resolver of every field that has one. It can be given a wrapper, once: from
then on every resolver in it stands behind that wrapper, those that were there before and those that
are entered later.
-/

namespace ArgGuard

/-- Resolvers by field. -/
structure ResolverMap (m : Type → Type) where
  resolvers : List (Coordinate × Resolver m) := []
  /-- The fields whose resolvers stand behind the wrapper. -/
  wrapped : List Coordinate := []
  wrapper : Option (ResolverWrapper m) := none

namespace ResolverMap

variable {m : Type → Type}

/-- The resolver of a field. -/
def get? (map : ResolverMap m) (coordinate : Coordinate) : Option (Resolver m) :=
  Members.get? map.resolvers coordinate

/-- Whether the resolver of a field stands behind the wrapper. -/
def isWrapped (map : ResolverMap m) (coordinate : Coordinate) : Bool :=
  map.wrapped.contains coordinate

/-- Enters a resolver, in place of the one that the field may have. -/
def insert (map : ResolverMap m) (coordinate : Coordinate) (resolver : Resolver m) :
    ResolverMap m :=
  match map.wrapper with
  | some wrapper =>
    { map with
      resolvers := Members.set map.resolvers coordinate (wrapper coordinate resolver)
      wrapped := if map.wrapped.contains coordinate then map.wrapped
        else map.wrapped ++ [coordinate] }
  | none =>
    { map with
      resolvers := Members.set map.resolvers coordinate resolver
      wrapped := map.wrapped.filter (· != coordinate) }

/-- Puts a wrapper before all resolvers, unless there is one already; also answers how many
resolvers came to stand behind it. -/
def wrapAll (map : ResolverMap m) (wrapper : ResolverWrapper m) : ResolverMap m × Nat :=
  match map.wrapper with
  | some _ => (map, 0)
  | none =>
    let fresh := (Members.names map.resolvers).filter fun coordinate => !map.isWrapped coordinate
    ({ resolvers := map.resolvers.map fun (coordinate, resolver) =>
        (coordinate, if map.isWrapped coordinate then resolver else wrapper coordinate resolver)
       wrapped := map.wrapped ++ fresh
       wrapper := some wrapper },
     fresh.length)

/-- Answers a call of a field. -/
def resolve [Pure m] (map : ResolverMap m) (inForce : InForce) (coordinate : Coordinate)
    (call : ResolverCall) : m Resolution :=
  match map.get? coordinate with
  | some resolver => resolver.resolve inForce call
  | none => pure (.error (.noResolver coordinate))

end ResolverMap

end ArgGuard
