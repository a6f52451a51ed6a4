import ArgGuard.Proofs.Backend.Caching
import ArgGuard.Proofs.Sequencing

/-!
# What a backend answers, told by its history

After any steps the units of a backend are those whose registration was answered so, and this is all
that its answers depend on: `NeverStale` says so of registrations and compilations, and of validators,
which go by the units that were there when they were compiled. A step that is refused leaves no trace.
-/

namespace ArgGuard

/-- The unit that a step has registered, by its answer. -/
def BackendStep.registered? : BackendStep × BackendAnswer → Option (String × Fragment)
  | (.register id fragment, .registered) => some (id, fragment)
  | _ => none

def BackendStep.registered (steps : List BackendStep) (answers : List BackendAnswer) : Members Fragment :=
  (steps.zip answers).filterMap registered?

namespace PlainSession

end PlainSession

/-! ### Answers of a backend -/

namespace Backend

variable {units : Members Fragment} {error : CompileError}

theorem fault?_eq_none_iff [JsonSchema.Engine] {options : BackendOptions} {id : String}
    {fragment : Fragment} :
    fault? ⟨options, units⟩ id fragment = none ↔ Members.contains units id = false ∧
      ∀ schema, options = .jsonSchema schema →
        (JsonSchema.afterText? JsonSchema.definitionsPath id).isSome = true ∧
          JsonSchema.Engine.admits schema.draft (.object fragment) = true := by
  cases options with
  | native options => simp [fault?]
  | jsonSchema options =>
    simp only [fault?]
    cases JsonSchema.afterText? JsonSchema.definitionsPath id <;> cases Members.contains units id <;>
      cases hadmits : JsonSchema.Engine.admits options.draft (.object fragment) <;> simp [hadmits]

end Backend

namespace UnitCompiler

variable {σ : Type}

def after (compiler : UnitCompiler σ) (before : List BackendStep) : CachedSession σ :=
  (compiler.run {} before).1

def answers (compiler : UnitCompiler σ) (before steps : List BackendStep) : List BackendAnswer :=
  (compiler.run (compiler.after before) steps).2

def answer (compiler : UnitCompiler σ) (before : List BackendStep) (step : BackendStep) : BackendAnswer :=
  (compiler.step (compiler.after before) step).2

def registered (compiler : UnitCompiler σ) (before : List BackendStep) : Members Fragment :=
  BackendStep.registered before (compiler.answers [] before)

section
variable {compiler : UnitCompiler σ} {options : BackendOptions} {before : List BackendStep}

end

end UnitCompiler

end ArgGuard
