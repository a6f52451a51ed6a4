import Mathlib.Data.Set.List
import ArgGuard.Proofs.Backend.Objects
import ArgGuard.Proofs.JsonSchema.Engine
import ArgGuard.Proofs.JsonSchema.Fits
import ArgGuard.Proofs.Registry.Coverage
import ArgGuard.Proofs.Registry.Plain
import ArgGuard.Proofs.Sdl.Names
import ArgGuard.Proofs.Shape.Conformance

/-!
# What a field requires

The unit of a field lists the arguments that refuse `null`, those that functions judge among them. In either
dialect its validator accepts no arguments in which one of these is missing (`required_supplied`). In JSON
Schema this depends on the reference to the unit, which goes by the address of the document of all units: a
schema within the document may claim this address for itself, and the reference leads there instead
(`LeadsHome`).
-/

namespace ArgGuard

open JsonSchema

variable {graph : TypeGraph} {drafting : Drafting} {type : GraphType} {field : GraphField}
  {argument : GraphArgument} {blueprint : Blueprint} {registry : Registry} {hook : Option InferenceHook}
  {overrides : Overrides} {name : String} {members : Members Json} {answer : Json}

/-! ### Arguments that functions judge -/

/-- `planArguments` requires an argument that refuses `null` also where a function judges it. -/
theorem Drafting.mem_required_of_function (hargument : argument ∈ field.arguments)
    (hnonNull : argument.position.nonNull = true)
    (hjudged : drafting.isJudged type field argument) :
    argument.name ∈ (drafting.planArguments type field).required := by
  obtain ⟨function, hfunction⟩ := hjudged
  obtain ⟨before, after, heq⟩ := List.append_of_mem hargument
  rw [planArguments, heq, List.foldl_append, List.foldl_cons]
  refine List.foldlRecOn (motive := fun plan : ObjectPlan => argument.name ∈ plan.required) after _ ?_
    fun plan hplan other _ => touches_planArgument.required _ hplan
  rw [planArgument_eq, hfunction]
  exact ObjectPlan.mem_requireIf.2 (.inr ⟨hnonNull, rfl⟩)

/-! ### JSON Schema -/

namespace JsonSchema

namespace Schema

variable {below : Judge} {follow : View Link} {value : Json}

theorem judge_of_mem {terms : List Schema} {term : Schema} (hterm : term ∈ terms)
    (hplain : term.isLeftOver = false) (h : judge below follow (.all terms) value = []) :
    judge below follow term value = [] := by
  rw [judge] at h
  generalize (if terms.any isLeftOver then (evaluatedEach below follow terms value).flatten else []) =
    seen at h
  induction terms with
  | nil => cases hterm
  | cons first rest ih =>
    rw [judgeTerms, List.append_eq_nil_iff] at h
    rcases List.mem_cons.1 hterm with rfl | hterm
    · rw [hplain, if_neg Bool.false_ne_true] at h
      exact h.1
    · exact ih hterm h.2

end Schema

theorem id?_object (draft : Draft) (properties : Members Fragment) (required : List String) (id : String) :
    draft.id? (Dialect.jsonSchema.tag (Dialect.jsonSchema.object properties required) id) = none := by
  cases draft <;> cases required <;> rfl

theorem Reading.required_of_target {reading : Reading} {context : Context} {properties : Members Fragment}
    {required : List String} {id : String} {below : Judge} {follow : View Link}
    (h : Schema.judge below follow (reading.target context
      (.object (Dialect.jsonSchema.tag (Dialect.jsonSchema.object properties required) id)))
        (.object members) = []) (hname : name ∈ required) : name ∈ Members.names members := by
  have hread : reading.target context
      (.object (Dialect.jsonSchema.tag (Dialect.jsonSchema.object properties required) id)) =
        reading.own context (("type", .string "object") :: Dialect.schemaMembers properties required) :=
    own_comment _
  have hrequired : Schema.assertion (.required required) ∈
      (if required.isEmpty then [] else [Schema.assertion (.required required)]) := by
    cases required with
    | nil => cases hname
    | cons => exact List.mem_singleton.2 rfl
  rw [hread, own_schemaMembers] at h
  have hterm := Schema.judge_of_mem (List.mem_cons_of_mem _ (List.mem_cons_of_mem _ hrequired)) rfl h
  rw [Schema.judge, Schema.failures_required_iff] at hterm
  exact Members.mem_names_iff.2 (hterm name hname)

end JsonSchema

namespace Registry

def document (options : BackendOptions) (registry : Registry) : Json :=
  Backend.document ⟨options, registry.units.map fun unit => (unit.id, unit.fragment)⟩

/-- A registry in which references to units lead to the units. In the native dialect they always do. -/
def LeadsHome (registry : Registry) : BackendOptions → Prop
  | .native _ => True
  | .jsonSchema options => JsonSchema.LeadsHome options.draft (registry.document (.jsonSchema options))

theorem leadsHome_of_unnamed {options : JsonSchemaOptions} (hdraft : options.draft = .draft7)
    (h : ∀ unit ∈ registry.units, Unnamed .draft7 (.object unit.fragment)) :
    registry.LeadsHome (.jsonSchema options) := by
  rw [LeadsHome, hdraft]
  refine Unnamed.leadsHome (unnamed_documentOf fun definition hdefinition => ?_)
  obtain ⟨entry, hentry, rfl⟩ := List.mem_map.1 hdefinition
  obtain ⟨unit, hunit, rfl⟩ := List.mem_map.1 hentry
  exact h unit hunit

theorem fieldId_eq_definition (hdialect : drafting.dialect = .jsonSchema) (type : GraphType)
    (field : GraphField) :
    drafting.fieldId type field = definitionsPath ++ unitName type.name (some field.name) none := by
  rw [Drafting.fieldId, hdialect]
  rfl

theorem argumentsUnit_eq_definition (hdialect : drafting.dialect = .jsonSchema) (type : GraphType)
    (field : GraphField) : drafting.argumentsUnit type field =
      (definitionsPath ++ unitName type.name (some field.name) none, Dialect.jsonSchema.tag
        (Dialect.jsonSchema.object (drafting.planArguments type field).properties
          (drafting.planArguments type field).required)
        (definitionsPath ++ unitName type.name (some field.name) none)) := by
  rw [Drafting.argumentsUnit, fieldId_eq_definition hdialect, Drafting.argumentsFragment, hdialect]

theorem typeId_eq_definition (hdialect : drafting.dialect = .jsonSchema) (type : GraphType) :
    drafting.typeId type = definitionsPath ++ unitName type.name none none := by
  rw [Drafting.typeId, hdialect]
  rfl

section
variable (htakes : graph.TakesArguments type field) (hof : Blueprint.ofGraph drafting graph = .ok blueprint)
include htakes hof

/-- `Backend.definitions` has `argumentsUnit` under its own name, whatever the overrides are. -/
theorem get?_argumentsDefinition (options : JsonSchemaOptions) (hdialect : drafting.dialect = .jsonSchema) :
    Members.get? (Backend.definitions ⟨.jsonSchema options, blueprint.units⟩)
      (unitName type.name (some field.name) none) = some (.object (drafting.argumentsUnit type field).2) := by
  have hplace : ∀ id ∈ Members.names blueprint.units, id ∈ Set.range (definitionsPath ++ ·) := by
    intro id hid
    rcases (Blueprint.mem_names_iff hof).1 hid with ⟨_, _, -, rfl⟩ | ⟨_, _, -, -, rfl⟩ | ⟨_, -, rfl⟩
    · exact ⟨_, (fieldId_eq_definition hdialect _ _).symm⟩
    · exact ⟨_, (fieldId_eq_definition hdialect _ _).symm⟩
    · exact ⟨_, (typeId_eq_definition hdialect _).symm⟩
  obtain ⟨names, hnames⟩ := (Set.range_list_map (definitionsPath ++ ·)).ge hplace
  have hd : names.Nodup := by
    have hd := (Blueprint.ofGraph_spec hof).2.2
    rw [← hnames] at hd
    exact hd.of_map _
  refine get?_definitions hnames.symm hd ?_
  rw [← fieldId_eq_definition hdialect]
  exact Blueprint.argumentsUnit_mem hof htakes

variable {compiled : FieldValidator}
  (hfield : registry.field? ⟨type.name, field.name⟩ = some compiled)
include hfield

theorem Carries.validator_eq (h : Carries blueprint registry) : ∃ unit,
    registry.unit? (drafting.fieldId type field) = some unit ∧ compiled.validator = unit.validator := by
  obtain ⟨other, unit, hother, hunit, -, hvalidator⟩ := h.exists_validator hof htakes
  cases hfield.symm.trans hother
  exact ⟨unit, hunit, hvalidator⟩

theorem Compiled.required_supplied {options : NativeOptions} {table : UnitTable}
    (h : Compiled options blueprint table registry) (hdialect : drafting.dialect = .native)
    (hname : name ∈ (drafting.planArguments type field).required)
    (hanswer : compiled.validator.validate (.object members) = .ok answer) : name ∈ Members.names members := by
  have hunit := Members.get?_of_mem (Blueprint.ofGraph_spec hof).2.2 (Blueprint.argumentsUnit_mem hof htakes)
  obtain ⟨unit, hfound, hvalidator⟩ := h.carries.validator_eq htakes hof hfield
  obtain ⟨shape, hshape, hread⟩ := h.reads.get? hunit
  have hfragment : Members.get? blueprint.units (drafting.fieldId type field) = some _ := hunit
  rw [h.unit?_eq, hfragment] at hfound
  cases hfound
  rw [hvalidator] at hanswer
  have haccepted := (nativeValidator_ok hshape hanswer).1
  rw [Drafting.argumentsFragment, hdialect] at hread
  obtain ⟨target, htarget, -⟩ := Shape.accepts_object_iff.1 haccepted
  obtain ⟨rfl, -⟩ := Shape.targetOf_kind
    (((Declares.object _ _).tag _).shape_kind hread) (by decide) htarget
  rw [← object_required hread] at hname
  exact Members.mem_names_iff.2 (Shape.required_of_accepted haccepted htarget hname)

theorem Linked.required_supplied {options : JsonSchemaOptions} (h : Linked options blueprint registry)
    (hdialect : drafting.dialect = .jsonSchema)
    (hnames : graph.HasNames) (hhome : registry.LeadsHome (.jsonSchema options))
    (hname : name ∈ (drafting.planArguments type field).required)
    (hanswer : compiled.validator.validate (.object members) = .ok answer) : name ∈ Members.names members := by
  have hd := (Blueprint.ofGraph_spec hof).2.2
  have hunit := Blueprint.argumentsUnit_mem hof htakes
  have hdefinition := get?_argumentsDefinition htakes hof options hdialect
  obtain ⟨unit, hfound, hvalidator⟩ := h.carries.validator_eq htakes hof hfield
  rw [argumentsUnit_eq_definition hdialect] at hunit hdefinition
  rw [fieldId_eq_definition hdialect] at hfound
  have hlink := h.linkUnit hd (Members.get?_of_mem hd hunit) hfound
  have hplainName : IsPlainName (unitName type.name (some field.name) none) :=
    (hnames type htakes.declared).1.isPlainName_field
      ((hnames type htakes.declared).2 field (GraphType.mem_callableFields_iff.1 htakes.callable).1)
  rw [LeadsHome, document, h.units_eq] at hhome
  obtain ⟨library, errors, hload, hprepare, hlinked⟩ := Backend.linkUnit_eq_ok_iff.1 hlink
  obtain ⟨table, context, -, -, -, hschema, herrors⟩ :=
    Engine.prepare_start hplainName hhome (id?_object _ _ _ _) hdefinition hload hprepare
  -- conversion keeps the names of an object
  obtain ⟨seen, hseen, hcheck⟩ := Validator.checkSchema_eq _ errors (.object members)
  rw [hvalidator, hlinked, Validator.validate, hcheck] at hanswer
  obtain ⟨converted, rfl, hsame⟩ : seen.HasNames (Members.names members) := by
    rcases hseen with rfl | ⟨definitions, schema, rfl⟩
    · exact ⟨members, rfl, rfl⟩
    · exact Coercion.hasNames_coerce schema
  split at hanswer
  · rename_i hpassed
    obtain ⟨depth, follow, -, hfailures, -⟩ := Schema.failures_reference hschema (.object converted)
    rw [List.isEmpty_iff, herrors, hfailures] at hpassed
    exact hsame ▸ Reading.required_of_target hpassed hname
  · cases hanswer

end

/-- Accepted arguments have a value for every name in `required`. -/
theorem required_supplied {options : BackendOptions} {compiled : FieldValidator}
    (hcompile : compile options hook overrides graph = .ok registry) (hnames : graph.HasNames)
    (hhome : registry.LeadsHome options) (htakes : graph.TakesArguments type field)
    (hfield : registry.field? ⟨type.name, field.name⟩ = some compiled)
    (hname : name ∈
      (Drafting.planArguments ⟨⟨options.dialect, hook, graph.enumerations⟩, overrides⟩ type field).required)
    (hanswer : compiled.validator.validate (.object members) = .ok answer) : name ∈ Members.names members := by
  cases options with
  | native options =>
    obtain ⟨blueprint, table, hof, hcompiled⟩ := compile_native hcompile
    exact hcompiled.required_supplied htakes hof hfield rfl hname hanswer
  | jsonSchema options =>
    obtain ⟨blueprint, hof, hlinked⟩ := compile_jsonSchema hcompile
    exact hlinked.required_supplied htakes hof hfield rfl hnames hhome hname hanswer

end Registry

end ArgGuard
