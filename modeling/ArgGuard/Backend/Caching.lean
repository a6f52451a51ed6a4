import ArgGuard.Backend.Basic

/-!
# Backends that keep what they have built

The validators of a backend share what is built from all its units together: the table of their
shapes, or the document in which they stand and the schemas in it. A backend builds this when a unit
is compiled, and keeps it until the next unit is registered. A registration that fails keeps it too.
What could not be built is not kept, while what was built stays even if the unit cannot be linked.
-/

namespace ArgGuard

/-- The definitions of all units, and the document of them as the engine has loaded it. -/
structure SharedUnits [JsonSchema.Engine] where
  definitions : Members Json
  loaded : JsonSchema.Engine.Loaded

/-- How units are compiled: what is wrong with one before it is registered, what is built from all of
them, and the validator that is made with it. An error of the second step is told about the unit that
was to be compiled. -/
structure UnitCompiler (σ : Type) where
  fault? : Members Fragment → String → Fragment → Option CompileError
  build : Members Fragment → Except (String → CompileError) σ
  finish : σ → String → Fragment → Except CompileError Validator

/-- Registered units, and what was built from them since the last registration. -/
structure CachedUnits (σ : Type) where
  units : Members Fragment := []
  shared : Option σ := none

namespace UnitCompiler

/-- Units of the native dialect share the shapes of all units. -/
def native [JsonSchema.Engine] (options : NativeOptions) : UnitCompiler UnitTable where
  fault? units := Backend.fault? ⟨.native options, units⟩
  build units := (Backend.shapes ⟨.native options, units⟩).mapError fun error _ => error
  finish table id _ := .ok (.native id ⟨table, options.coercing⟩)

def jsonSchema [JsonSchema.Engine] (options : JsonSchemaOptions) : UnitCompiler SharedUnits where
  fault? units := Backend.fault? ⟨.jsonSchema options, units⟩
  build units :=
    let backend : Backend := ⟨.jsonSchema options, units⟩
    match JsonSchema.Engine.load options.draft backend.document with
    | .ok loaded => .ok ⟨backend.definitions, loaded⟩
    | .error reason => .error fun id => .backend id reason
  finish shared id fragment := do
    let errors ← (JsonSchema.Engine.prepare options.draft options.reading shared.loaded id).mapError
      (.backend id)
    let coercion := if options.coercing then some (.object fragment, shared.definitions) else none
    return .jsonSchema coercion errors

variable {σ : Type} (compiler : UnitCompiler σ) (cached : CachedUnits σ)

/-- Registers a unit. What was built before it is of no use any more. -/
def register (id : String) (fragment : Fragment) : Except CompileError (CachedUnits σ) :=
  match compiler.fault? cached.units id fragment with
  | some error => .error error
  | none => .ok ⟨cached.units ++ [(id, fragment)], none⟩

/-- What was kept, or what is built now and kept from now on. -/
def share : Except (String → CompileError) (σ × CachedUnits σ) :=
  match cached.shared with
  | some shared => .ok (shared, cached)
  | none =>
    match compiler.build cached.units with
    | .ok shared => .ok (shared, { cached with shared := some shared })
    | .error blame => .error blame

def compile (id : String) : Except CompileError Validator × CachedUnits σ :=
  match Members.get? cached.units id with
  | none => (.error (.unknownUnit id), cached)
  | some fragment =>
    match compiler.share cached with
    | .error blame => (.error (blame id), cached)
    | .ok (shared, cached) => (compiler.finish shared id fragment, cached)

end UnitCompiler

end ArgGuard
