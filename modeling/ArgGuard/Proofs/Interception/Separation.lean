import ArgGuard.Proofs.Interception.Verdict
import ArgGuard.Proofs.Registry.Compiled
import ArgGuard.Proofs.Schema.Restriction

/-!
# Functions and schemas keep apart

An argument that a function judges is no concern of the schema. For a native registry this says that
two calls which differ in such arguments alone are treated alike by the validator of the field: both
pass or both fail with the same failures, none of which lies in such an argument, and what passes
keeps their values as they were supplied (`functions_kept_apart`). The other way round, a function is
asked about no argument but its own.

The unit of a field is an object with the properties of the other arguments and nothing else: it allows
further members, and has no list of allowed values that could look at the object as a whole
(`arguments_shape`). So the check of a member without a property leaves it as it is, and what is
required is asked of the names only (`check_agree`). An argument with a function may still be required.
-/

namespace ArgGuard

namespace Members

variable {hidden : String → Prop} {members others : Members Json} {name : String}

/-- Members of the same names in the same order, whose values may differ under some names only. -/
def Agree (hidden : String → Prop) (members others : Members Json) : Prop :=
  List.Forall₂ (fun entry other => entry.1 = other.1 ∧ (hidden entry.1 ∨ entry.2 = other.2)) members others

namespace Agree

theorem names (h : Agree hidden members others) : Members.names members = Members.names others := by
  induction h with
  | nil => rfl
  | cons hentry _ ih =>
    rw [Members.names, Members.names, List.map_cons, List.map_cons, hentry.1]
    exact congrArg _ ih

theorem contains (h : Agree hidden members others) (name : String) :
    Members.contains members name = Members.contains others name := by
  rw [Bool.eq_iff_iff, ← Members.mem_names_iff, ← Members.mem_names_iff, h.names]

theorem get? (h : Agree hidden members others) (hname : ¬hidden name) :
    Members.get? members name = Members.get? others name := by
  induction h with
  | nil => rfl
  | @cons entry other _ _ hentry _ ih =>
    obtain ⟨key, value⟩ := entry
    obtain ⟨otherKey, otherValue⟩ := other
    obtain ⟨rfl, hvalue⟩ := hentry
    rw [Members.get?_cons, Members.get?_cons, ih]
    split
    · rename_i hkey
      subst hkey
      exact congrArg some (hvalue.resolve_left hname)
    · rfl

theorem map (h : Agree hidden members others) (f : String → Json → Json) :
    Agree hidden (members.map fun entry => (entry.1, f entry.1 entry.2))
      (others.map fun entry => (entry.1, f entry.1 entry.2)) := by
  refine List.forall₂_map_left_iff.2 (List.forall₂_map_right_iff.2 (h.imp ?_))
  rintro ⟨key, value⟩ ⟨otherKey, otherValue⟩ ⟨rfl, hvalue⟩
  exact ⟨rfl, hvalue.imp_right fun heq => congrArg (f key) heq⟩

theorem self_map (members : Members Json) (f : String → Json → Json)
    (hf : ∀ name value, hidden name → f name value = value) :
    Agree (¬hidden ·) members (members.map fun entry => (entry.1, f entry.1 entry.2)) := by
  refine List.forall₂_map_right_iff.2 (List.forall₂_same.2 fun entry _ => ⟨rfl, ?_⟩)
  by_cases hname : hidden entry.1
  · exact .inr (hf _ _ hname).symm
  · exact .inl hname

end Agree

end Members

/-! ### Objects that say nothing of some members -/

namespace Shape

variable {hidden : String → Prop} {rules : CheckRules} {properties : Members Shape}
  {required : List String} {members others : Members Json}

/-- An object of some properties that allows other members. -/
def openObject (properties : Members Shape) (required : List String) : Shape :=
  { kind := some .object, properties := properties, required := required }

/-- The check of one member of such an object. -/
def checkMember (rules : CheckRules) (properties : Members Shape) (name : String) (value : Json) : Checked :=
  checkPart rules (Members.get? properties name) value

theorem targetOf_openObject (rules : CheckRules) (properties : Members Shape) (required : List String)
    (members : Members Json) : targetOf rules (openObject properties required) (.object members) =
      .ok (openObject properties required, .object members) :=
  targetOf_eq_ok_iff.2 ⟨resolve_of_kind_ne (by simp [openObject]) _, .inr ⟨.object, rfl, rfl⟩⟩

theorem check_openObject (rules : CheckRules) (properties : Members Shape) (required : List String)
    (members : Members Json) : check rules (openObject properties required) (.object members) =
      ⟨.object (members.map fun entry => (entry.1, (checkMember rules properties entry.1 entry.2).value)),
        (missingCauses (openObject properties required) members).map .here ++
          propertyFailures properties (memberChecks rules properties members)⟩ := by
  rw [check_object (targetOf_openObject rules properties required members)]
  exact congrArg (Checked.mk _) (List.append_nil _)

section
variable (hhidden : ∀ name, hidden name → Members.get? properties name = none)
include hhidden

theorem checkMember_hidden {name : String} (hname : hidden name) (value : Json) :
    checkMember rules properties name value = ⟨value, []⟩ := by
  rw [checkMember, hhidden name hname]
  rfl

/-- Neither the failures of an `openObject` nor its other members depend on what is hidden. -/
theorem check_agree (h : Members.Agree hidden members others) :
    (check rules (openObject properties required) (.object members)).failures =
      (check rules (openObject properties required) (.object others)).failures := by
  rw [check_openObject, check_openObject]
  have hmissing : missingCauses (openObject properties required) members =
      missingCauses (openObject properties required) others := by
    simp only [missingCauses, h.contains]
  have hproperties : propertyFailures properties (memberChecks rules properties members) =
      propertyFailures properties (memberChecks rules properties others) := by
    refine List.flatMap_congr fun entry hentry => ?_
    -- what has a property is not hidden, so it is the same on both sides
    have hname : ¬hidden entry.1 := by
      intro hname
      have hcontains := Members.contains_of_mem hentry
      rw [Members.contains, hhidden _ hname] at hcontains
      cases hcontains
    dsimp only
    rw [get?_memberChecks, get?_memberChecks, h.get? hname]
  rw [hmissing, hproperties]

theorem path_of_mem_failures {failure : CheckFailure} {step : String} {rest : Pointer}
    (hfailure : failure ∈ (check rules (openObject properties required) (.object members)).failures)
    (hpath : failure.path = step :: rest) : ¬hidden step := by
  intro hstep
  rw [check_openObject] at hfailure
  rcases List.mem_append.1 hfailure with hfailure | hfailure
  · obtain ⟨cause, -, rfl⟩ := List.mem_map.1 hfailure
    cases hpath
  · obtain ⟨name, value, -, inner, hinner, rfl⟩ := mem_memberFailures.1 hfailure
    cases hpath
    rw [hhidden step hstep] at hinner
    cases hinner

end

end Shape

/-! ### Compiled fields -/

variable {options : NativeOptions} {hook : Option InferenceHook} {overrides : Overrides}
  {graph : TypeGraph} {drafting : Drafting} {type : GraphType} {field : GraphField}
  {blueprint : Blueprint} {table : UnitTable} {registry : Registry}

/-- Whether an argument of a field is judged by a function. -/
def Overrides.HasFunction (overrides : Overrides) (coordinate : Coordinate) (argument : String) : Prop :=
  ∃ function, overrides.argument? ⟨coordinate.typeName, coordinate.fieldName, argument⟩ =
    some (.function function)

namespace Drafting

/-- `argumentsUnit` is read as an `openObject` without properties for what functions judge. -/
theorem arguments_shape {shape : Shape} (hdialect : drafting.dialect = .native)
    (hread : Shape.ofFragment (drafting.argumentsUnit type field).2 = .ok shape) :
    ∃ properties required, shape = Shape.openObject properties required ∧
      ∀ name, drafting.overrides.HasFunction ⟨type.name, field.name⟩ name →
        Members.get? properties name = none := by
  rw [argumentsUnit_eq hdialect] at hread
  obtain ⟨final, hadded, rfl⟩ := Shape.ofFragment_object ((Shape.ofFragment_tag _).1 hread)
  refine ⟨final, _, rfl, fun name ⟨function, hfunction⟩ => ?_⟩
  cases hproperty : Members.get? final name with
  | none => rfl
  | some property =>
    rcases hadded.mem_final (Members.mem_of_get? hproperty) with hmem | ⟨inner, hmem, -⟩
    · cases hmem
    · obtain ⟨entry, hentry, heq⟩ := List.mem_map.1 hmem
      obtain ⟨rfl, -⟩ := Prod.mk.inj heq
      have hnone := function?_of_mem_planArguments hentry
      rw [Overrides.function?_eq_some_iff.2 hfunction] at hnone
      cases hnone

end Drafting

namespace Registry

theorem Compiled.exists_unit (h : Compiled options blueprint table registry)
    (hof : Blueprint.ofGraph drafting graph = .ok blueprint) {compiled : FieldValidator}
    (hcompiled : compiled ∈ registry.fields) :
    ∃ type field shape, drafting.argumentsUnit type field ∈ blueprint.units ∧
      compiled.coordinate = ⟨type.name, field.name⟩ ∧ compiled.unitId = drafting.fieldId type field ∧
      compiled.validator = nativeValidator options table (drafting.fieldId type field) ∧
      Members.get? table (drafting.fieldId type field) = some shape ∧
      Shape.ofFragment (drafting.argumentsUnit type field).2 = .ok shape := by
  obtain ⟨planned, hplanned, -, rfl⟩ := exists_mem_of_forall₂ h.fields hcompiled
  obtain ⟨type, field, hfield, rfl⟩ := (Blueprint.mem_fields_iff hof).1 hplanned
  have hunit : drafting.argumentsUnit type field ∈ blueprint.units := Blueprint.argumentsUnit_mem hof hfield
  obtain ⟨shape, hshape, hread⟩ := h.reads.get? (Members.get?_of_mem (Blueprint.ofGraph_spec hof).2.2 hunit)
  exact ⟨type, field, shape, hunit, rfl, rfl, rfl, hshape, hread⟩

theorem Compiled.arguments_shape (h : Compiled options blueprint table registry)
    (hof : Blueprint.ofGraph drafting graph = .ok blueprint) (hdialect : drafting.dialect = .native)
    {compiled : FieldValidator} (hcompiled : compiled ∈ registry.fields) :
    ∃ id properties required, compiled.validator = nativeValidator options table id ∧
      Members.get? table id = some (Shape.openObject properties required) ∧
      ∀ name, drafting.overrides.HasFunction compiled.coordinate name →
        Members.get? properties name = none := by
  obtain ⟨type, field, shape, -, hcoordinate, -, hvalidator, hshape, hread⟩ := h.exists_unit hof hcompiled
  obtain ⟨properties, required, rfl, hnone⟩ := Drafting.arguments_shape hdialect hread
  exact ⟨_, properties, required, hvalidator, hshape, hcoordinate ▸ hnone⟩

theorem nativeValidator_eq_error_iff {id : String} {shape : Shape} {value : Json}
    {failures : List ValueFailure} (hshape : Members.get? table id = some shape) :
    (nativeValidator options table id).validate value = .error failures ↔
      (shape.check ⟨table, options.coercing⟩ value).failures ≠ [] ∧
        failures = (shape.check ⟨table, options.coercing⟩ value).failures.map CheckFailure.report := by
  simp only [nativeValidator, Validator.validate, Validator.checkUnit, hshape, Checked.result]
  cases (shape.check ⟨table, options.coercing⟩ value).failures <;> simp [eq_comm]

/-! ### A unit that is an open object -/

section
variable {id : String} {properties : Members Shape} {required : List String} {hidden : String → Prop}
  {members others : Members Json} {failures : List ValueFailure}
  (hshape : Members.get? table id = some (Shape.openObject properties required))
include hshape

theorem nativeValidator_openObject_ok {answer : Json}
    (h : (nativeValidator options table id).validate (.object members) = .ok answer) :
    answer = .object (members.map fun entry =>
      (entry.1, (Shape.checkMember ⟨table, options.coercing⟩ properties entry.1 entry.2).value)) := by
  have hvalue := (nativeValidator_ok hshape h).2
  rw [Shape.check_openObject] at hvalue
  exact hvalue.symm

theorem nativeValidator_agree (hhidden : ∀ name, hidden name → Members.get? properties name = none)
    (h : Members.Agree hidden members others) :
    (nativeValidator options table id).validate (.object members) = .error failures ↔
      (nativeValidator options table id).validate (.object others) = .error failures := by
  rw [nativeValidator_eq_error_iff hshape, nativeValidator_eq_error_iff hshape,
    Shape.check_agree hhidden h]

end

end Registry

namespace FieldValidator

/-- A field whose validator takes no notice of the arguments that functions judge, while the functions
are asked about nothing else. -/
structure KeepsApart (overrides : Overrides) (field : FieldValidator) : Prop where
  /-- Calls that differ in judged arguments alone are accepted alike. -/
  accepted : ∀ arguments others,
    Members.Agree (overrides.HasFunction field.coordinate) arguments others →
      (field.validator.validate (.object arguments)).isOk = (field.validator.validate (.object others)).isOk
  /-- If they are refused, it is with the same failures. -/
  failures : ∀ arguments others failures,
    Members.Agree (overrides.HasFunction field.coordinate) arguments others →
      (field.validator.validate (.object arguments) = .error failures ↔
        field.validator.validate (.object others) = .error failures)
  /-- If they are accepted, the answers differ in judged arguments alone. -/
  answers : ∀ arguments others answer other,
    Members.Agree (overrides.HasFunction field.coordinate) arguments others →
      field.validator.validate (.object arguments) = .ok answer →
      field.validator.validate (.object others) = .ok other →
        ∃ converted otherConverted, answer = .object converted ∧ other = .object otherConverted ∧
          Members.Agree (overrides.HasFunction field.coordinate) converted otherConverted
  /-- What is accepted has the judged arguments as they were supplied. -/
  supplied : ∀ arguments answer, field.validator.validate (.object arguments) = .ok answer →
    ∃ converted, answer = .object converted ∧
      Members.Agree (¬overrides.HasFunction field.coordinate ·) arguments converted
  /-- No failure lies in a judged argument. -/
  paths : ∀ arguments failures, field.validator.validate (.object arguments) = .error failures →
    ∀ failure ∈ failures, ∀ step rest, failure.path = step :: rest →
      ¬overrides.HasFunction field.coordinate step
  /-- A function is asked about the argument at which it stands. -/
  asked : ∀ resolver call question,
    .asked question ∈ ((field.guard marking (noting resolver) call).run []).2 →
      overrides.argument? ⟨field.coordinate.typeName, field.coordinate.fieldName, question.argument⟩ =
        some (.function question.1.function)

theorem mem_questions_of_asked {field : FieldValidator} {resolver : ResolverCall → Resolution}
    {call : ResolverCall} {question : Question}
    (h : .asked question ∈ ((field.guard marking (noting resolver) call).run []).2) :
    question ∈ field.questions { call with arguments := (field.checkArguments call.arguments).1 } := by
  cases hchecked : field.checkArguments call.arguments with
  | mk arguments found =>
    have hasked : Mark.asked question ∈ (field.questions { call with arguments }).map .asked := by
      rw [guard_marking _ hchecked] at h
      cases hsettled : settle { call with arguments }
          (found ++ Question.rejections (field.questions { call with arguments })) with
      | error failures =>
        rw [hsettled] at h
        exact h
      | ok seen =>
        rw [hsettled] at h
        rcases List.mem_append.1 h with h | h
        · exact h
        · cases List.mem_singleton.1 h
    obtain ⟨found, hfound, heq⟩ := List.mem_map.1 hasked
    cases heq
    exact hfound

theorem mem_functions_of_asked {field : FieldValidator} {resolver : ResolverCall → Resolution}
    {call : ResolverCall} {question : Question}
    (h : .asked question ∈ ((field.guard marking (noting resolver) call).run []).2) :
    question.1 ∈ field.functions := by
  obtain ⟨function, hfunction, hquestion⟩ := List.mem_filterMap.1 (mem_questions_of_asked h)
  rwa [question?_fst hquestion]

end FieldValidator

namespace Registry

/-- `KeepsApart` of every field of a native registry. -/
theorem functions_kept_apart
    (hcompile : compile (.native options) hook overrides graph = .ok registry)
    {compiled : FieldValidator} (hcompiled : compiled ∈ registry.fields) :
    compiled.KeepsApart overrides := by
  obtain ⟨blueprint, table, hof, hnative⟩ := compile_native hcompile
  obtain ⟨id, properties, required, hvalidator, hshape, hhidden⟩ :=
    hnative.arguments_shape hof rfl hcompiled
  have hrefused : ∀ arguments others failures,
      Members.Agree (overrides.HasFunction compiled.coordinate) arguments others →
        (compiled.validator.validate (.object arguments) = .error failures ↔
          compiled.validator.validate (.object others) = .error failures) :=
    fun arguments others failures h => hvalidator ▸ nativeValidator_agree hshape hhidden h
  have haccepted : ∀ arguments answer, compiled.validator.validate (.object arguments) = .ok answer →
      answer = .object (arguments.map fun entry =>
        (entry.1, (Shape.checkMember ⟨table, options.coercing⟩ properties entry.1 entry.2).value)) :=
    fun arguments answer h => nativeValidator_openObject_ok hshape (hvalidator ▸ h)
  constructor
  case failures => exact hrefused
  case accepted =>
    intro arguments others h
    exact isOk_eq_of_error_iff fun failures => hrefused arguments others failures h
  case answers =>
    intro arguments others answer other h hanswer hother
    refine ⟨_, _, haccepted _ _ hanswer, haccepted _ _ hother, ?_⟩
    exact h.map fun name value => (Shape.checkMember ⟨table, options.coercing⟩ properties name value).value
  case supplied =>
    intro arguments answer hanswer
    refine ⟨_, haccepted _ _ hanswer, Members.Agree.self_map arguments
      (fun name value => (Shape.checkMember ⟨table, options.coercing⟩ properties name value).value) ?_⟩
    intro name value hname
    rw [Shape.checkMember_hidden hhidden hname]
  case paths =>
    intro arguments failures hfailed failure hfailure step rest hpath
    rw [hvalidator] at hfailed
    obtain ⟨found, hfound, rfl⟩ := nativeValidator_error hshape hfailed hfailure
    exact Shape.path_of_mem_failures hhidden hfound hpath
  case asked =>
    intro resolver call question hasked
    obtain ⟨type, field, -, hcoordinate, hfunctions⟩ := functions_of_compile hcompile hcompiled
    have hfunction := FieldValidator.mem_functions_of_asked hasked
    rw [hfunctions] at hfunction
    obtain ⟨argument, -, hfound, hsite⟩ := Overrides.mem_judges_iff.1 hfunction
    rw [Question.argument, hsite, hcoordinate]
    exact Overrides.function?_eq_some_iff.1 hfound

/-- A field with an amount and a memo, both of which have to be there. -/
def transferDocument : List TypeDefinition :=
  [⟨"Mutation", [], .object [⟨"transfer",
    [⟨"amount", .named "Float" true, []⟩, ⟨"memo", .named "String" true, []⟩],
    .named "Boolean" false, []⟩]⟩]

/-- The amount is not negative, and a function judges the memo. -/
def transferOverrides : Overrides where
  arguments :=
    [(⟨"Mutation", "transfer", "amount"⟩, .fragment [("minimum", .ofInt 0)]),
      (⟨"Mutation", "transfer", "memo"⟩, .function ⟨fun question =>
        if question.value.string?.isSome then .ok () else .error ⟨"is no text", none⟩⟩)]

theorem functions_kept_apart_transfer : ∃ registry compiled,
    compile (.native {}) none transferOverrides (.ofDefinitions transferDocument) = .ok registry ∧
      compiled ∈ registry.fields ∧ compiled.coordinate = ⟨"Mutation", "transfer"⟩ ∧
      compiled.functions.length = 1 ∧ compiled.KeepsApart transferOverrides := by
  have hrun : ((compile (.native {}) none transferOverrides (.ofDefinitions transferDocument)).toOption.any
      fun registry => registry.fields.any fun compiled =>
        compiled.coordinate = ⟨"Mutation", "transfer"⟩ ∧ compiled.functions.length = 1) = true := by
    decide +kernel
  obtain ⟨registry, hcompile, hregistry⟩ := exists_ok_of_any hrun
  obtain ⟨compiled, hcompiled, hfield⟩ := List.any_eq_true.1 hregistry
  obtain ⟨hcoordinate, hfunctions⟩ := of_decide_eq_true hfield
  exact ⟨registry, compiled, hcompile, hcompiled, hcoordinate, hfunctions,
    functions_kept_apart hcompile hcompiled⟩

end Registry

end ArgGuard
