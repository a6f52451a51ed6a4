import ArgGuard.Proofs.JsonSchema.Coercion
import ArgGuard.Proofs.Registry.Linked
import ArgGuard.Proofs.Registry.Plans
import ArgGuard.Proofs.Schema.Bare

/-!
# Coercion in registries of JSON Schema

Without overrides the units of a registry are tame, each of them (`Linked.tame`): a fragment of a position
refers to a unit, or states a type and what goes with it. So coercion by the unit of a field does at every
place what it does there on its own, as long as steps are left (`coercion_at_places`). They run out in a
value that goes through more than 64 references, however deep the places are at which each one starts:
`chain_not_coerced`.
-/

namespace ArgGuard

namespace JsonSchema.Coercion

variable {schema other : Members Json}

theorem Tame.congr (h : Tame (.object schema))
    (hkeys : ∀ key, key ≠ "$comment" → Members.get? other key = Members.get? schema key) :
    Tame (.object other) := by
  have hanyOf : chosenBranch? other = chosenBranch? schema := by
    unfold chosenBranch?; rw [hkeys "anyOf" (by decide)]
  have hbranches : allBranches other = allBranches schema := by
    unfold allBranches; rw [hkeys "allOf" (by decide)]
  have htypes : declaredTypes other = declaredTypes schema := by
    unfold declaredTypes; rw [hkeys "type" (by decide)]
  have hdeclared : declared? other = declared? schema := by
    unfold declared?; rw [hkeys "properties" (by decide)]
  cases h with
  | branch h1 h2 h3 h4 h5 h6 =>
    exact .branch (hanyOf ▸ h1) (hbranches ▸ h2) (htypes ▸ h3) (hkeys "items" (by decide) ▸ h4)
      (hkeys "properties" (by decide) ▸ h5) h6
  | plain h1 h2 h3 h4 =>
    exact .plain (hanyOf ▸ h1) (hbranches ▸ h2) (hkeys "items" (by decide) ▸ h3) (hdeclared ▸ h4)

theorem Tame.tag (h : Tame (.object schema)) (id : String) :
    Tame (.object (Dialect.jsonSchema.tag schema id)) :=
  h.congr fun _ hkey => Dialect.get?_tag hkey id

theorem Tame.leaf (hanyOf : chosenBranch? schema = none) (hbranches : allBranches schema = [])
    (hitems : Members.get? schema "items" = none) (hproperties : Members.get? schema "properties" = none) :
    Tame (.object schema) :=
  .plain hanyOf hbranches (fun _ h => by rw [hitems] at h; cases h)
    fun _ h => by rw [declared?, hproperties] at h; cases h

theorem tame_standard {inference : Inference} (hdialect : inference.dialect = .jsonSchema) (name : String)
    (nonNull : Bool) : Tame (.object (inference.standard name nonNull)) := by
  unfold Inference.standard
  rw [hdialect]
  split
  · exact .leaf rfl rfl rfl rfl
  · split
    · exact .leaf rfl rfl rfl rfl
    · exact .leaf rfl rfl rfl rfl

theorem tame_reference (target : String) (nullable : Bool) :
    Tame (.object (Dialect.jsonSchema.reference target nullable)) := by
  cases nullable
  · exact .branch rfl rfl rfl rfl rfl (.leaf rfl rfl rfl rfl)
  · exact .leaf rfl rfl rfl rfl

theorem tame_array {items : Fragment} (h : Tame (.object items)) (nullable : Bool) :
    Tame (.object (Dialect.jsonSchema.array items nullable)) :=
  .plain rfl rfl (fun _ hitems => by cases hitems; exact h) fun _ hproperties => by cases hproperties

theorem tame_object {properties : Members Fragment} (h : ∀ entry ∈ properties, Tame (.object entry.2))
    (type : Json) (required : List String) :
    Tame (.object (("type", type) :: Dialect.schemaMembers properties required)) := by
  have hproperties : declared? (("type", type) :: Dialect.schemaMembers properties required) =
      some (Members.mapValues .object properties) := rfl
  refine .plain ?_ ?_ ?_ ?_
  · unfold chosenBranch? Dialect.schemaMembers
    split <;> rfl
  · unfold allBranches Dialect.schemaMembers
    split <;> rfl
  · unfold Dialect.schemaMembers
    split <;> exact fun _ hitems => by cases hitems
  · rw [hproperties]
    rintro _ ⟨⟩ name property hproperty
    obtain ⟨entry, hentry, heq⟩ := List.mem_map.1 (Members.mem_of_get? hproperty)
    cases heq
    exact h entry hentry

end JsonSchema.Coercion

open JsonSchema.Coercion

namespace Inference

theorem IsPlain.tame {inference : Inference} (h : inference.IsPlain .jsonSchema) (position : Position) :
    Tame (.object (inference.bareFragment position)) := by
  induction position with
  | named name leaf nonNull =>
    rw [bareFragment]
    split
    · rw [h.dialect]; exact tame_reference _ _
    · rw [h.infer_eq]
      exact tame_standard h.dialect name nonNull
  | list item nonNull ih => rw [bareFragment, h.dialect]; exact tame_array ih _

end Inference

namespace Drafting

variable {drafting : Drafting} {type : GraphType} {field : GraphField}
  (h : drafting.inference.IsPlain .jsonSchema) (hoverrides : drafting.overrides = {})
include h hoverrides

theorem tame_inputFragment : Tame (.object (drafting.inputFragment type field)) := by
  rw [inputFragment, hoverrides, Overrides.inputField?, Members.get?_nil, Inference.synthesize_none,
    h.dialect]
  exact (h.tame field.position).tag _

theorem tame_argumentFragment (argument : GraphArgument) :
    Tame (.object (drafting.argumentFragment type field argument)) := by
  rw [argumentFragment, argumentOverride, hoverrides, Overrides.argument?, Members.get?_nil,
    Inference.synthesize_none, h.dialect]
  exact (h.tame argument.position).tag _

theorem tame_of_mem_typeUnits {unit : String × Fragment} (hunit : unit ∈ drafting.typeUnits type) :
    Tame (.object unit.2) := by
  have hdialect : drafting.dialect = .jsonSchema := h.dialect
  obtain ⟨-, ⟨field, -, rfl⟩ | rfl | ⟨field, -, rfl⟩⟩ := mem_typeUnits hunit
  · exact tame_inputFragment h hoverrides
  · rw [typeUnit, typeFragment, hoverrides, Overrides.type?, Members.get?_nil, hdialect]
    refine Tame.tag (tame_object (fun entry hentry => ?_) _ _) _
    obtain ⟨field, -, rfl⟩ := mem_inputPlan hentry
    exact tame_inputFragment h hoverrides
  · rw [argumentsUnit, argumentsFragment, hdialect]
    refine Tame.tag (tame_object (fun entry hentry => ?_) _ _) _
    obtain ⟨argument, -, rfl⟩ := mem_planArguments hentry
    exact tame_argumentFragment h hoverrides argument

end Drafting

namespace Registry

/-- The units of a registry as the definitions of one document. -/
def definitions (registry : Registry) : Members Json :=
  registry.units.map fun unit =>
    ((JsonSchema.afterText? JsonSchema.definitionsPath unit.id).getD unit.id, .object unit.fragment)

variable {options : JsonSchemaOptions} {blueprint : Blueprint} {registry : Registry}

theorem Linked.definitions_eq (h : Linked options blueprint registry) :
    registry.definitions = Backend.definitions ⟨.jsonSchema options, blueprint.units⟩ := by
  rw [Backend.definitions, ← h.units_eq, List.map_map]
  rfl

/-- The validator of a field coerces by the unit of the field and the `definitions` of all units. -/
theorem Linked.validator (h : Linked options blueprint registry) {validated : FieldValidator}
    (hvalidated : validated ∈ registry.fields) :
    ∃ unit errors, registry.unit? validated.unitId = some unit ∧ unit ∈ registry.units ∧
      validated.validator = .jsonSchema
        (if options.coercing then some (.object unit.fragment, registry.definitions) else none) errors := by
  obtain ⟨planned, -, unit, hunit, rfl⟩ := exists_mem_of_forall₂ h.fields hvalidated
  have hmem := List.mem_of_find?_eq_some hunit
  obtain ⟨registered, -, -, hfragment, hlink⟩ := exists_mem_of_forall₂ h.units hmem
  obtain ⟨loaded, errors, -, -, hvalidator⟩ := Backend.linkUnit_eq_ok_iff.1 hlink
  refine ⟨unit, errors, hunit, hmem, ?_⟩
  rw [hvalidator, hfragment, h.definitions_eq]

theorem Linked.tame {drafting : Drafting} {graph : TypeGraph} (h : Linked options blueprint registry)
    (hof : Blueprint.ofGraph drafting graph = .ok blueprint) (hplain : drafting.inference.IsPlain .jsonSchema)
    (hoverrides : drafting.overrides = {}) :
    TameDefinitions registry.definitions ∧ ∀ unit ∈ registry.units, Tame (.object unit.fragment) := by
  have hunits : ∀ unit ∈ registry.units, Tame (.object unit.fragment) := by
    intro unit hunit
    have hmem : (unit.id, unit.fragment) ∈ blueprint.units := by
      rw [← h.units_eq]
      exact List.mem_map.2 ⟨unit, hunit, rfl⟩
    obtain ⟨type, -, hmem⟩ := (Blueprint.mem_units_iff hof).1 hmem
    exact Drafting.tame_of_mem_typeUnits hplain hoverrides hmem
  refine ⟨fun name schema hschema => ?_, hunits⟩
  obtain ⟨unit, hunit, heq⟩ := List.mem_map.1 (Members.mem_of_get? hschema)
  cases heq
  exact hunits unit hunit

theorem jsonSchema_answer {schema value answer : Json} {definitions : Members Json}
    {errors : Json → List ValueFailure}
    (h : (Validator.jsonSchema (some (schema, definitions)) errors).validate value = .ok answer) :
    answer = coerce definitions schema value := by
  simp only [Validator.validate, Validator.checkSchema] at h
  split at h <;> cases h
  rfl

/-- At every place that the unit of a field `Governs`, the coerced value has what the part comes to with the
steps that are left of `stepLimit`. As long as some are left everywhere below, that is what it comes to on
its own; where none is left, the part stays as it is. -/
theorem coercion_at_places (definitions : List TypeDefinition) (options : JsonSchemaOptions)
    (hcoercing : options.coercing = true) (registry : Registry)
    (h : compile (.jsonSchema options) none {} (.ofDefinitions definitions) = .ok registry)
    (validated : FieldValidator) (hvalidated : validated ∈ registry.fields) :
    ∃ unit, registry.unit? validated.unitId = some unit ∧
      ∀ value coerced, coerced = coerce registry.definitions (.object unit.fragment) value →
        (∀ answer, validated.validator.validate value = .ok answer → answer = coerced) ∧
        ∀ place used inner part,
          Governs registry.definitions (.object unit.fragment) value place used inner part →
            coerced.at? place = some (coerceFrom registry.definitions (stepLimit - used) inner part) ∧
            (value.hasDistinctNames = true →
              (∀ deeper more innermost deepest,
                Governs registry.definitions inner part deeper more innermost deepest →
                  used + more < stepLimit) →
              coerced.at? place = some (coerce registry.definitions inner part)) ∧
            (stepLimit ≤ used → coerced.at? place = some part) := by
  obtain ⟨blueprint, hof, hlinked⟩ := compile_jsonSchema h
  obtain ⟨hdefinitions, hunits⟩ := hlinked.tame hof ⟨rfl, rfl⟩ rfl
  obtain ⟨unit, errors, hunit, hmem, hvalidator⟩ := hlinked.validator hvalidated
  refine ⟨unit, hunit, fun value coerced hcoerced => ⟨fun answer hanswer => ?_, ?_⟩⟩
  · rw [hvalidator, hcoercing, if_pos rfl] at hanswer
    rw [hcoerced]
    exact jsonSchema_answer hanswer
  · intro place used inner part hgoverns
    have hplace := at?_coerceFrom hdefinitions (hunits unit hmem) hgoverns stepLimit
    rw [← coerce_eq, ← hcoerced] at hplace
    refine ⟨hplace, fun hd hsteps => ?_, fun hused => ?_⟩
    · rw [hplace, coerce_eq, coerceFrom_eq hdefinitions
        (hgoverns.tame hdefinitions (hunits unit hmem)) (Json.hasDistinctNames_at? hd hgoverns.at?)]
      intro deeper more innermost deepest hdeeper
      have hmore := hsteps _ _ _ _ hdeeper
      omega
    · rw [hplace, Nat.sub_eq_zero_of_le hused, coerceFrom_zero]

/-- A document with an input object that holds a number and refers to itself. -/
def chainDocument : List TypeDefinition :=
  [⟨"Chain", [], .inputObject [⟨"n", .named "Int" false, []⟩, ⟨"next", .named "Chain" false, []⟩]⟩,
    ⟨"Query", [], .object [⟨"walk", [⟨"chain", .named "Chain" false, []⟩], .named "Int" false, []⟩]⟩]

/-- The schema of the number. -/
def chainNumber : Json :=
  .object [("type", .array [.string "integer", .string "null"]), ("$comment", .string "#/definitions/Chain.n")]

/-- A reference to the input object. -/
def chainReference (id : String) : Json :=
  .object [("$ref", .string "#/definitions/Chain"), ("$comment", .string id)]

/-- The schema of the input object. -/
def chainSchema : Json :=
  .object [("type", .array [.string "object", .string "null"]),
    ("properties", .object [("n", chainNumber), ("next", chainReference "#/definitions/Chain.next")]),
    ("$comment", .string "#/definitions/Chain")]

/-- The schema of the arguments. -/
def chainArguments : Json :=
  .object [("type", .string "object"),
    ("properties", .object [("chain", chainReference "#/definitions/Query.walk.chain")]),
    ("$comment", .string "#/definitions/Query.walk")]

def chainDefinitions : Members Json :=
  [("Chain.n", chainNumber), ("Chain.next", chainReference "#/definitions/Chain.next"),
    ("Chain", chainSchema), ("Query.walk", chainArguments)]

/-- A number as a text at the end of a chain. -/
def chainValue : Nat → Json
  | 0 => .object [("n", .string "7")]
  | length + 1 => .object [("next", chainValue length)]

/-- The place of the number. -/
def chainPlace (length : Nat) : List Json.Step :=
  List.replicate length (.member "next") ++ [.member "n"]

theorem governs_chain (length : Nat) :
    Governs chainDefinitions chainSchema (chainValue length) (chainPlace length) length chainNumber
      (.string "7") := by
  induction length with
  | zero => exact .member rfl rfl rfl rfl (.here _ _)
  | succ length ih => exact .member rfl rfl rfl rfl (.reference rfl ih)

theorem governs_chainArguments (length : Nat) :
    Governs chainDefinitions chainArguments (.object [("chain", chainValue length)])
      (.member "chain" :: chainPlace length) (length + 1) chainNumber (.string "7") :=
  .member rfl rfl rfl rfl (.reference rfl (governs_chain length))

theorem chain_compiled : ∃ registry validated unit,
    compile (.jsonSchema {}) none {} (.ofDefinitions chainDocument) = .ok registry ∧
      validated ∈ registry.fields ∧ registry.unit? validated.unitId = some unit ∧
      registry.definitions = chainDefinitions ∧ Json.object unit.fragment = chainArguments := by
  have hrun : (compile (.jsonSchema {}) none {} (.ofDefinitions chainDocument)).isOk = true := by
    decide +kernel
  cases h : compile (.jsonSchema {}) none {} (.ofDefinitions chainDocument) with
  | error error => rw [h] at hrun; cases hrun
  | ok registry =>
    obtain ⟨blueprint, hof, hlinked⟩ := compile_jsonSchema h
    have hd := (Blueprint.ofGraph_spec hof).2.2
    cases hof
    obtain ⟨validated, rest, ⟨unit, hunit, rfl⟩, -, hfields⟩ :=
      List.forall₂_cons_left_iff.1 hlinked.fields
    obtain ⟨hmem, hid⟩ := unit?_eq_some hunit
    have hfragment := Members.get?_of_mem hd (hlinked.units_eq ▸ List.mem_map.2 ⟨unit, hmem, rfl⟩)
    rw [hid] at hfragment
    exact ⟨registry, _, unit, rfl, hfields ▸ List.mem_cons_self, hunit, hlinked.definitions_eq,
      congrArg Json.object (Option.some.inj hfragment).symm⟩

/-- Two references down, a number that is a text is converted as it is on its own. -/
theorem coercion_at_places_chain : ∃ registry validated unit,
    compile (.jsonSchema {}) none {} (.ofDefinitions chainDocument) = .ok registry ∧
      validated ∈ registry.fields ∧ registry.unit? validated.unitId = some unit ∧
      (coerce registry.definitions (.object unit.fragment) (.object [("chain", chainValue 1)])).at?
          (.member "chain" :: chainPlace 1) =
        some (coerce registry.definitions chainNumber (.string "7")) := by
  obtain ⟨registry, validated, unit, h, hvalidated, hunit, hdefinitions, hfragment⟩ := chain_compiled
  obtain ⟨other, hother, hcoerced⟩ :=
    coercion_at_places chainDocument {} rfl registry h validated hvalidated
  cases hunit.symm.trans hother
  refine ⟨registry, validated, unit, h, hvalidated, hunit, ?_⟩
  have hgoverns : Governs registry.definitions (.object unit.fragment) (.object [("chain", chainValue 1)])
      (.member "chain" :: chainPlace 1) 2 chainNumber (.string "7") := by
    rw [hdefinitions, hfragment]
    exact governs_chainArguments 1
  refine ((hcoerced _ _ rfl).2 _ _ _ _ hgoverns).2.1 (by decide) ?_
  -- nothing is below a text
  intro deeper more innermost deepest hdeeper
  rw [hdefinitions, chainNumber] at hdeeper
  cases hdeeper with
  | here => decide
  | reference htarget => cases htarget
  | branch hdirect hbranch => cases hbranch

/-- A number that is a text is converted below up to 64 references, but no longer below 65: there it stays a
text, although on its own it would be converted. -/
theorem chain_not_coerced : ∃ registry validated unit,
    compile (.jsonSchema {}) none {} (.ofDefinitions chainDocument) = .ok registry ∧
      validated ∈ registry.fields ∧ registry.unit? validated.unitId = some unit ∧
      ∃ place used inner part, Governs registry.definitions (.object unit.fragment)
          (.object [("chain", chainValue 64)]) place used inner part ∧
        (coerce registry.definitions (.object unit.fragment)
            (.object [("chain", chainValue 64)])).at? place ≠
          some (coerce registry.definitions inner part) := by
  obtain ⟨registry, validated, unit, h, hvalidated, hunit, hdefinitions, hfragment⟩ := chain_compiled
  refine ⟨registry, validated, unit, h, hvalidated, hunit, ?_⟩
  rw [hdefinitions, hfragment]
  refine ⟨_, _, _, _, governs_chainArguments 64, ?_⟩
  have hkept : ((coerce chainDefinitions chainArguments (.object [("chain", chainValue 64)])).at?
      (.member "chain" :: chainPlace 64)).bind Json.string? = some "7" := by decide +kernel
  have hown : coerce chainDefinitions chainNumber (.string "7") = .ofInt 7 := by rfl
  intro hsame
  rw [hsame, hown] at hkept
  cases hkept

end Registry

end ArgGuard
