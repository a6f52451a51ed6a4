import ArgGuard.Backend.Caching
import ArgGuard.Proofs.Members

/-!
# What a backend keeps is never stale

A backend that keeps what it has built answers as one that builds everything afresh, at every moment of
every sequence of steps. What carries this is that a kept thing was built from the units that are
registered now (`IsFresh`): a registration drops it, and a compilation either finds it or builds it. So
a session with a backend that keeps things follows, step by step, the session with a backend that does
not (`Follows.step`, `Follows.run`), and of the latter it is plain that a step that is refused changes
nothing, and that a validator stays what it is.

Nothing of this depends on the dialect, only on what a compiler makes of some units afresh (`Serves`).
-/

namespace ArgGuard

/-- What may be asked of a backend, and of the validators that were got from it, by number. -/
inductive BackendStep
  | register (id : String) (fragment : Fragment)
  | compile (id : String)
  | validate (number : Nat) (value : Json)

inductive BackendAnswer
  | registered
  | compiled
  | refused (error : CompileError)
  | validated (outcome : Validator.Outcome)
  | noValidator

def Validator.answer (validators : List Validator) (number : Nat) (value : Json) : BackendAnswer :=
  match validators[number]? with
  | some validator => .validated (validator.validate value)
  | none => .noValidator

/-! ### Sessions in which nothing is kept -/

/-- A backend that keeps nothing but its units, and the validators that were got from it. -/
structure PlainSession where
  backend : Backend
  validators : List Validator := []

namespace PlainSession

variable {session : PlainSession} {steps : List BackendStep}

def step (session : PlainSession) : BackendStep → PlainSession × BackendAnswer
  | .register id fragment =>
    match session.backend.register id fragment with
    | .ok backend => ({ session with backend }, .registered)
    | .error error => (session, .refused error)
  | .compile id =>
    match session.backend.compile id with
    | .ok validator => ({ session with validators := session.validators ++ [validator] }, .compiled)
    | .error error => (session, .refused error)
  | .validate number value => (session, Validator.answer session.validators number value)

def run (session : PlainSession) : List BackendStep → PlainSession × List BackendAnswer
  | [] => (session, [])
  | step :: rest =>
    (((session.step step).1.run rest).1, (session.step step).2 :: ((session.step step).1.run rest).2)

end PlainSession

/-! ### Sessions in which something is kept -/

/-- A backend that keeps what it has built, and the validators that were got from it. -/
structure CachedSession (σ : Type) where
  cached : CachedUnits σ := {}
  validators : List Validator := []

namespace UnitCompiler

variable {σ : Type} {compiler : UnitCompiler σ} {cached : CachedUnits σ}

def step (compiler : UnitCompiler σ) (session : CachedSession σ) :
    BackendStep → CachedSession σ × BackendAnswer
  | .register id fragment =>
    match compiler.register session.cached id fragment with
    | .ok cached => ({ session with cached }, .registered)
    | .error error => (session, .refused error)
  | .compile id =>
    match compiler.compile session.cached id with
    | (.ok validator, cached) => (⟨cached, session.validators ++ [validator]⟩, .compiled)
    | (.error error, cached) => ({ session with cached }, .refused error)
  | .validate number value => (session, Validator.answer session.validators number value)

def run (compiler : UnitCompiler σ) (session : CachedSession σ) :
    List BackendStep → CachedSession σ × List BackendAnswer
  | [] => (session, [])
  | step :: rest =>
    ((compiler.run (compiler.step session step).1 rest).1,
      (compiler.step session step).2 :: (compiler.run (compiler.step session step).1 rest).2)

/-- What is kept was built from the units that are there. -/
def IsFresh (compiler : UnitCompiler σ) (cached : CachedUnits σ) : Prop :=
  ∀ shared, cached.shared = some shared → compiler.build cached.units = .ok shared

/-- Compiles a unit without anything that was kept. -/
def compileAfresh (compiler : UnitCompiler σ) (units : Members Fragment) (id : String) :
    Except CompileError Validator :=
  match Members.get? units id with
  | none => .error (.unknownUnit id)
  | some fragment =>
    match compiler.build units with
    | .error blame => .error (blame id)
    | .ok shared => compiler.finish shared id fragment

/-- `share` answers what `build` would make of the same units, and keeps the units beside it. -/
theorem share_eq (h : compiler.IsFresh cached) :
    (∃ shared after, compiler.share cached = .ok (shared, after) ∧
      compiler.build cached.units = .ok shared ∧ after.units = cached.units ∧ compiler.IsFresh after) ∨
    ∃ blame, compiler.share cached = .error blame ∧ compiler.build cached.units = .error blame := by
  unfold share
  cases hshared : cached.shared with
  | some shared => exact .inl ⟨shared, cached, rfl, h shared hshared, rfl, h⟩
  | none =>
    cases hbuild : compiler.build cached.units with
    | error blame => exact .inr ⟨blame, rfl, rfl⟩
    | ok shared =>
      refine .inl ⟨shared, _, rfl, rfl, rfl, ?_⟩
      rintro _ ⟨⟩
      exact hbuild

/-- `compile` answers as `compileAfresh` does, and changes nothing but what is kept. -/
theorem compile_eq (h : compiler.IsFresh cached) (id : String) :
    ∃ after, compiler.compile cached id = (compiler.compileAfresh cached.units id, after) ∧
      after.units = cached.units ∧ compiler.IsFresh after := by
  unfold compile compileAfresh
  cases Members.get? cached.units id with
  | none => exact ⟨cached, rfl, rfl, h⟩
  | some fragment =>
    rcases share_eq h with ⟨shared, after, hshare, hbuild, hunits, hafter⟩ | ⟨blame, hshare, hbuild⟩
    · exact ⟨after, by simp only [hshare, hbuild], hunits, hafter⟩
    · exact ⟨cached, by simp only [hshare, hbuild], rfl, h⟩

/-- A compiler of the units of a backend with some options. -/
structure Serves (compiler : UnitCompiler σ) (options : BackendOptions) : Prop where
  fault? : ∀ units id fragment, compiler.fault? units id fragment =
    Backend.fault? ⟨options, units⟩ id fragment
  compile : ∀ units id, compiler.compileAfresh units id = Backend.compile ⟨options, units⟩ id

/-- A session with the same units and validators as one that keeps nothing; what it has kept is fresh. -/
structure Follows (compiler : UnitCompiler σ) (options : BackendOptions) (session : CachedSession σ)
    (plain : PlainSession) : Prop where
  backend : plain.backend = ⟨options, session.cached.units⟩
  validators : plain.validators = session.validators
  fresh : compiler.IsFresh session.cached

namespace Follows

variable {options : BackendOptions} {session : CachedSession σ} {plain : PlainSession}

theorem empty (compiler : UnitCompiler σ) (options : BackendOptions) :
    compiler.Follows options {} ⟨.empty options, []⟩ := by
  refine ⟨rfl, rfl, ?_⟩
  rintro _ ⟨⟩

theorem step (h : compiler.Follows options session plain) (hserves : compiler.Serves options)
    (step : BackendStep) : (compiler.step session step).2 = (plain.step step).2 ∧
      compiler.Follows options (compiler.step session step).1 (plain.step step).1 := by
  obtain ⟨cached, validators⟩ := session
  obtain ⟨backend, _⟩ := plain
  obtain ⟨hbackend, hvalidators, hfresh⟩ := h
  dsimp only at hbackend hvalidators hfresh
  subst hbackend hvalidators
  cases step with
  | register id fragment =>
    simp only [UnitCompiler.step, PlainSession.step, register, Backend.register, hserves.fault?]
    cases Backend.fault? ⟨options, cached.units⟩ id fragment with
    | some error => exact ⟨rfl, rfl, rfl, hfresh⟩
    | none =>
      refine ⟨rfl, rfl, rfl, ?_⟩
      rintro _ ⟨⟩
  | compile id =>
    -- what is kept may be new, the units are the same
    obtain ⟨after, hcompile, hunits, hafter⟩ := compile_eq hfresh id
    simp only [UnitCompiler.step, PlainSession.step, hcompile, hserves.compile]
    cases Backend.compile ⟨options, cached.units⟩ id with
    | error error => exact ⟨rfl, by rw [hunits], rfl, hafter⟩
    | ok validator => exact ⟨rfl, by rw [hunits], rfl, hafter⟩
  | validate number value => exact ⟨rfl, rfl, rfl, hfresh⟩

theorem run (h : compiler.Follows options session plain) (hserves : compiler.Serves options)
    (steps : List BackendStep) : (compiler.run session steps).2 = (plain.run steps).2 ∧
      compiler.Follows options (compiler.run session steps).1 (plain.run steps).1 := by
  induction steps generalizing session plain with
  | nil => exact ⟨rfl, h⟩
  | cons step rest ih =>
    obtain ⟨hanswer, hnext⟩ := h.step hserves step
    obtain ⟨hanswers, hlast⟩ := ih hnext
    exact ⟨congrArg₂ List.cons hanswer hanswers, hlast⟩

end Follows

end UnitCompiler

end ArgGuard
