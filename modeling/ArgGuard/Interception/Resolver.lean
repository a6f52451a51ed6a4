import ArgGuard.Interception.Guard

/-!
# Resolvers

A resolver answers the calls of a field. The host brings its own; a guard stands before a resolver
and lets a call through to it only with arguments that the registry in force admits. Which registry
that is, is looked up when the call arrives: the guard knows the number of its layer, and a call is
made under a reading of layer numbers as registries. Resolvers answer in a monad of the host's
choice.
-/

namespace ArgGuard

abbrev LayerId := Nat

abbrev InForce := LayerId → Registry

/-- The answer to a call. -/
abbrev Resolution := Except ResolutionError Json

/-- A resolver of a field. -/
inductive Resolver (m : Type → Type)
  /-- A resolver of the host. -/
  | host (run : ResolverCall → m Resolution)
  /-- A resolver behind something that sees its calls, and may change or answer them itself. -/
  | decorated (around : (ResolverCall → m Resolution) → ResolverCall → m Resolution)
      (inner : Resolver m)
  /-- A resolver of a field behind the guard of a layer. -/
  | guarded (layer : LayerId) (coordinate : Coordinate) (inner : Resolver m)

namespace Resolver

variable {m : Type → Type}

/-- Answers a call. -/
def resolve [Pure m] (inForce : InForce) : Resolver m → ResolverCall → m Resolution
  | host run, call => run call
  | decorated around inner, call => around (inner.resolve inForce) call
  | guarded layer coordinate inner, call =>
    match (inForce layer).admitted coordinate call with
    | .ok arguments => inner.resolve inForce { call with arguments }
    | .error failure => pure (.error (.validation failure))

/-- The layers whose guards stand before the host's resolver, outermost first. -/
def guards : Resolver m → List LayerId
  | host _ => []
  | decorated _ inner => inner.guards
  | guarded layer _ inner => layer :: inner.guards

end Resolver

/-- What is put before a resolver when it is entered for a field. -/
abbrev ResolverWrapper (m : Type → Type) := Coordinate → Resolver m → Resolver m

def Resolver.guardOf (layer : LayerId) {m : Type → Type} : ResolverWrapper m :=
  Resolver.guarded layer

end ArgGuard
