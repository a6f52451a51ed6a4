import ArgGuard.Proofs.Interception.Separation
import ArgGuard.Proofs.Shape.Conformance

/-!
# What functions see of the other arguments

The functions of a field are asked about the arguments that its validator answers with. If the validator
refuses a call, though, there is no such answer, and the functions are asked about the arguments as they were
supplied, those among them that nothing is wrong with included. So in a native registry a function sees an
argument converted only where every other argument is accepted too, and a failure in one argument can turn
the verdict on another one, unless conversion would have left alone what the function reads
(`functions_view`, `verdict_turned_by_sibling`).
-/

namespace ArgGuard

variable {options : NativeOptions} {hook : Option InferenceHook} {overrides : Overrides}
  {graph : TypeGraph} {drafting : Drafting} {blueprint : Blueprint} {table : UnitTable}
  {registry : Registry} {compiled : FieldValidator}

/-! ### Calls that differ in one argument -/

namespace Members

variable {members : Members Json} {name other : String}

/-- The members that do not have a name. -/
def without (name : String) (members : Members Json) : Members Json :=
  members.filter (·.1 ≠ name)

theorem get?_without (members : Members Json) (h : other ≠ name) :
    get? (without name members) other = get? members other := by
  induction members with
  | nil => rfl
  | cons head rest ih =>
    obtain ⟨key, value⟩ := head
    rw [without, List.filter_cons]
    by_cases hkey : key = name
    · subst hkey
      rw [if_neg (by simp), get?_cons, if_neg (Ne.symm h)]
      exact ih
    · rw [if_pos (by simpa using hkey), get?_cons, get?_cons]
      exact congrArg _ ih

theorem without_map (members : Members Json) (name : String) (f : String → Json → Json) :
    without name (members.map fun entry => (entry.1, f entry.1 entry.2)) =
      (without name members).map fun entry => (entry.1, f entry.1 entry.2) :=
  List.filter_map

end Members

/-- Two calls that are the same but for one argument, which either may lack. -/
structure ResolverCall.SameBut (name : String) (call other : ResolverCall) : Prop where
  arguments : Members.without name call.arguments = Members.without name other.arguments
  context : call.context = other.context
  info : call.info = other.info

/-- A function that does not read an argument. -/
def ValidationFunction.Ignores (function : ValidationFunction) (name : String) : Prop :=
  ∀ question arguments, Members.without name question.arguments = Members.without name arguments →
    function.judge question = function.judge { question with arguments }

theorem ArgumentFunction.failure?_sameBut {function : ArgumentFunction} {name : String}
    {call other : ResolverCall} (hignores : function.function.Ignores name)
    (hown : function.site.coordinate.argumentName ≠ name) (h : call.SameBut name other) :
    function.failure? call = function.failure? other := by
  have hvalue : Members.get? call.arguments function.site.coordinate.argumentName =
      Members.get? other.arguments function.site.coordinate.argumentName := by
    rw [← Members.get?_without _ hown, h.arguments, Members.get?_without _ hown]
  unfold failure?
  dsimp only
  rw [hvalue]
  cases Members.get? other.arguments function.site.coordinate.argumentName with
  | none => rfl
  | some value =>
    dsimp only
    rw [hignores ⟨function.site, value, call.arguments, call.context, call.info⟩ other.arguments h.arguments,
      h.context, h.info]

/-! ### Properties and what they make of values -/

def Fragment.property? (fragment : Fragment) (name : String) : Option Fragment := do
  let properties ← (Members.get? fragment "properties").bind Json.object?
  (Members.get? properties name).bind Json.object?

theorem Fragment.property?_object (properties : Members Fragment) (required : List String)
    (id name : String) : Fragment.property?
      (Dialect.native.tag (Dialect.native.object properties required) id) name =
        Members.get? properties name := by
  have hvalue : Members.get? (Dialect.native.tag (Dialect.native.object properties required) id)
      "properties" = some (.object (properties.map fun entry => (entry.1, .object entry.2))) := by
    rw [Dialect.get?_tag (by decide)]
    rfl
  rw [property?, hvalue, Option.bind_some, Json.object?, Option.bind_eq_bind, Option.bind_some,
    Members.get?_mapEntries fun _ fragment => Json.object fragment]
  cases Members.get? properties name <;> rfl

/-- What a native validator makes of a value by a fragment, if it accepts the value. -/
def Validator.convert? : Validator → Fragment → Json → Option Json
  | native _ rules, fragment, value => do
    let shape ← (Shape.ofFragment fragment).toOption
    (shape.check rules value).result.toOption
  | jsonSchema .., _, _ => none

theorem Validator.convert?_native {id : String} {rules : CheckRules} {fragment : Fragment} {shape : Shape}
    {value converted : Json} (hread : Shape.ofFragment fragment = .ok shape) :
    (native id rules).convert? fragment value = some converted ↔
      (shape.check rules value).failures = [] ∧ (shape.check rules value).value = converted := by
  have hresult : (native id rules).convert? fragment value = (shape.check rules value).result.toOption := by
    rw [convert?, hread]
    rfl
  rw [hresult, ← Shape.result_eq_ok_iff]
  cases (shape.check rules value).result <;> simp [Except.toOption]

/-- Whether the property of an argument accepts a value, and what it makes of it. -/
def FieldValidator.Converts (registry : Registry) (field : FieldValidator) (name : String)
    (value converted : Json) : Prop :=
  ∃ fragment, Fragment.property? (registry.fragment field.unitId) name = some fragment ∧
    field.validator.convert? fragment value = some converted

/-- Members of which conversion changes none, each named once. -/
structure FieldValidator.LeavesAlone (registry : Registry) (field : FieldValidator)
    (members : Members Json) : Prop where
  distinct : (Members.names members).Nodup
  kept : ∀ entry ∈ members, ∀ converted, field.Converts registry entry.1 entry.2 converted →
    converted = entry.2

/-- What the functions of a field are asked about. -/
def FieldValidator.view (field : FieldValidator) (call : ResolverCall) : ResolverCall :=
  { call with arguments := (field.checkArguments call.arguments).1 }

/-- Whether the validator of a field accepts the arguments of a call. -/
def FieldValidator.accepts (field : FieldValidator) (call : ResolverCall) : Bool :=
  (field.validator.validate (.object call.arguments)).isOk

namespace FieldValidator

variable {field : FieldValidator} {call : ResolverCall}

theorem view_of_refused (h : field.accepts call = false) : field.view call = call := by
  rw [accepts] at h
  rcases field.checkArguments_cases call.arguments with ⟨converted, hok, -⟩ | ⟨failures, -, -, hchecked⟩
  · rw [hok] at h
    cases h
  · rw [view, hchecked]

theorem view_of_accepted {arguments : Members Json}
    (h : field.validator.validate (.object call.arguments) = .ok (.object arguments)) :
    field.view call = { call with arguments } := by
  rw [view, checkArguments_ok h]

theorem exists_of_accepts (h : field.accepts call = true) :
    ∃ arguments, field.validator.validate (.object call.arguments) = .ok (.object arguments) := by
  rw [accepts] at h
  rcases field.checkArguments_cases call.arguments with ⟨converted, hok, -⟩ | ⟨failures, hfailed, -⟩
  · exact ⟨converted, hok⟩
  · rw [hfailed] at h
    cases h

end FieldValidator

/-! ### Fields of a native registry -/

/-- A field whose unit reads to an open object with a property for every fragment among its properties. -/
structure FieldValidator.ReadsOpen (options : NativeOptions) (table : UnitTable) (registry : Registry)
    (field : FieldValidator) (properties : Members Shape) (required : List String) : Prop where
  validator : field.validator = Registry.nativeValidator options table field.unitId
  shape : Members.get? table field.unitId = some (Shape.openObject properties required)
  properties : ∀ name, Option.Rel (fun fragment property => Shape.ofFragment fragment = .ok property)
    (Fragment.property? (registry.fragment field.unitId) name) (Members.get? properties name)

theorem Registry.Compiled.readsOpen (h : Compiled options blueprint table registry)
    (hof : Blueprint.ofGraph drafting graph = .ok blueprint) (hdialect : drafting.dialect = .native)
    (hcompiled : compiled ∈ registry.fields) :
    ∃ properties required, compiled.ReadsOpen options table registry properties required := by
  obtain ⟨type, field, shape, hunit, -, hid, hvalidator, hshape, hread⟩ := h.exists_unit hof hcompiled
  obtain ⟨properties, required, rfl, -⟩ := Drafting.arguments_shape hdialect hread
  refine ⟨properties, required, hid ▸ hvalidator, hid ▸ hshape, fun name => ?_⟩
  have hfragment : registry.fragment (drafting.fieldId type field) = (drafting.argumentsUnit type field).2 :=
    h.carries.fragment_eq hof hunit
  rw [Drafting.argumentsUnit_eq hdialect] at hread hfragment
  rw [hid, hfragment, Fragment.property?_object]
  exact Narrows.object_properties Drafting.nodup_planArguments hread name

namespace FieldValidator.ReadsOpen

variable {field : FieldValidator} {properties : Members Shape} {required : List String}
  (h : field.ReadsOpen options table registry properties required)
include h

theorem converts_iff {name : String} {value converted : Json} :
    field.Converts registry name value converted ↔ ∃ property, Members.get? properties name = some property ∧
      (Shape.check ⟨table, options.coercing⟩ property value).failures = [] ∧
      (Shape.check ⟨table, options.coercing⟩ property value).value = converted := by
  rw [Converts, h.validator, Registry.nativeValidator]
  have hproperty := h.properties name
  revert hproperty
  cases Fragment.property? (registry.fragment field.unitId) name with
  | none =>
    intro hproperty
    generalize Members.get? properties name = found at hproperty
    cases hproperty
    simp
  | some fragment =>
    intro hproperty
    generalize Members.get? properties name = found at hproperty
    cases hproperty with
    | some hread => simp [Validator.convert?_native hread]

theorem view_arguments {call : ResolverCall} (haccepted : field.accepts call = true) :
    (field.view call).arguments = call.arguments.map fun entry =>
      (entry.1, (Shape.checkMember ⟨table, options.coercing⟩ properties entry.1 entry.2).value) := by
  obtain ⟨arguments, hok⟩ := exists_of_accepts haccepted
  rw [view_of_accepted hok]
  rw [h.validator] at hok
  exact Json.object.inj (Registry.nativeValidator_openObject_ok h.shape hok)

/-- An argument that its property `Converts` is shown converted if the field `accepts` the call, and as it
was supplied otherwise. -/
theorem get?_view {call : ResolverCall} {name : String} {value converted : Json}
    (hconverts : field.Converts registry name value converted)
    (hvalue : Members.get? call.arguments name = some value) :
    Members.get? (field.view call).arguments name =
      some (if field.accepts call then converted else value) := by
  cases haccepted : field.accepts call with
  | false =>
    rw [view_of_refused haccepted, if_neg Bool.false_ne_true]
    exact hvalue
  | true =>
    obtain ⟨property, hproperty, -, rfl⟩ := h.converts_iff.1 hconverts
    rw [h.view_arguments haccepted, if_pos rfl, Members.get?_mapEntries fun name value =>
      (Shape.checkMember ⟨table, options.coercing⟩ properties name value).value, hvalue, Option.map_some,
      Shape.checkMember, hproperty, Shape.checkPart_some]

theorem converts_of_accepted {call : ResolverCall} (haccepted : field.accepts call = true) {name : String}
    {value : Json} {property : Shape} (hproperty : Members.get? properties name = some property)
    (hvalue : Members.get? call.arguments name = some value) :
    field.Converts registry name value (property.check ⟨table, options.coercing⟩ value).value := by
  obtain ⟨arguments, hok⟩ := exists_of_accepts haccepted
  rw [h.validator] at hok
  have hmember := Shape.member_of_accepted (Registry.nativeValidator_ok h.shape hok).1
    (Shape.targetOf_openObject _ properties required _) hproperty hvalue
  exact h.converts_iff.2 ⟨property, hproperty, hmember, rfl⟩

theorem without_view {call : ResolverCall} {name : String}
    (halone : field.LeavesAlone registry (Members.without name call.arguments)) :
    Members.without name (field.view call).arguments = Members.without name call.arguments := by
  cases haccepted : field.accepts call with
  | false => rw [view_of_refused haccepted]
  | true =>
    rw [h.view_arguments haccepted, Members.without_map _ name fun name value =>
      (Shape.checkMember ⟨table, options.coercing⟩ properties name value).value]
    refine (List.map_congr_left fun entry hentry => ?_).trans (List.map_id _)
    obtain ⟨key, value⟩ := entry
    -- a name that stands once is shown as it is looked up, and what is looked up was checked
    have hkey : key ≠ name := by simpa using (List.mem_filter.1 hentry).2
    have hvalue : Members.get? call.arguments key = some value := by
      rw [← Members.get?_without _ hkey]
      exact Members.get?_of_mem halone.distinct hentry
    dsimp only [id]
    cases hproperty : Members.get? properties key with
    | none => rw [Shape.checkMember, hproperty, Shape.checkPart_none]
    | some property =>
      have hkept := halone.kept _ hentry _ (h.converts_of_accepted haccepted hproperty hvalue)
      rw [Shape.checkMember, hproperty, Shape.checkPart_some, hkept]

theorem sameBut_view {call other : ResolverCall} {name : String} (hsame : call.SameBut name other)
    (halike : field.accepts call = field.accepts other ∨
      field.LeavesAlone registry (Members.without name call.arguments)) :
    (field.view call).SameBut name (field.view other) := by
  refine ⟨?_, hsame.context, hsame.info⟩
  -- calls that are accepted alike go through the same conversion, entry by entry
  rcases halike with halike | halone
  · cases haccepted : field.accepts call with
    | false =>
      rw [view_of_refused haccepted, view_of_refused (halike ▸ haccepted)]
      exact hsame.arguments
    | true =>
      rw [h.view_arguments haccepted, h.view_arguments (halike ▸ haccepted),
        Members.without_map _ name fun name value =>
          (Shape.checkMember ⟨table, options.coercing⟩ properties name value).value,
        Members.without_map _ name fun name value =>
          (Shape.checkMember ⟨table, options.coercing⟩ properties name value).value, hsame.arguments]
  · rw [h.without_view halone, h.without_view (hsame.arguments ▸ halone), hsame.arguments]

end FieldValidator.ReadsOpen

/-- What the functions of a field see of the arguments, and when a failure in an argument that they do not
read leaves their verdicts as they are. -/
structure FieldValidator.Views (registry : Registry) (field : FieldValidator) : Prop where
  /-- A function sees an argument that its property accepts converted if all arguments are accepted, and as
  it was supplied if one is not. -/
  shown : ∀ resolver call question,
    .asked question ∈ ((field.guard marking (noting resolver) call).run []).2 →
      ∀ name value converted, field.Converts registry name value converted →
        Members.get? call.arguments name = some value →
          Members.get? question.2.arguments name =
            some (if field.accepts call then converted else value)
  /-- A function judges calls alike that differ in an argument which it does not read, if the validator
  accepts them alike or conversion leaves the other arguments alone. -/
  verdicts : ∀ function ∈ field.functions, ∀ name, function.function.Ignores name →
    function.site.coordinate.argumentName ≠ name → ∀ call other : ResolverCall, call.SameBut name other →
      (field.accepts call = field.accepts other ∨
        field.LeavesAlone registry (Members.without name call.arguments)) →
      function.failure? (field.view call) = function.failure? (field.view other)

namespace Registry

theorem functions_view (hcompile : compile (.native options) hook overrides graph = .ok registry)
    (hcompiled : compiled ∈ registry.fields) : compiled.Views registry := by
  obtain ⟨blueprint, table, hof, hnative⟩ := compile_native hcompile
  obtain ⟨properties, required, hopen⟩ := hnative.readsOpen hof rfl hcompiled
  constructor
  case shown =>
    intro resolver call question hasked name value converted hconverts hvalue
    obtain ⟨function, -, hquestion⟩ := List.mem_filterMap.1 (FieldValidator.mem_questions_of_asked hasked)
    obtain ⟨own, -, rfl⟩ := Option.map_eq_some_iff.1 hquestion
    exact hopen.get?_view hconverts hvalue
  case verdicts =>
    intro function _ name hignores hown call other hsame halike
    exact ArgumentFunction.failure?_sameBut hignores hown (hopen.sameBut_view hsame halike)

def replyDocument : List TypeDefinition :=
  [⟨"Query", [], .object [⟨"reply",
    [⟨"id", .named "ID" true, []⟩, ⟨"body", .named "String" false, []⟩, ⟨"page", .named "Int" false, []⟩],
    .named "String" false, []⟩]⟩]

/-- A function that wants the body to be a text. -/
def textBody : ValidationFunction where
  judge question :=
    match Members.get? question.arguments "body" with
    | some (.string _) => .ok ()
    | _ => .error ⟨"body not coerced", none⟩

def replyOverrides : Overrides where
  arguments := [(⟨"Query", "reply", "id"⟩, .function textBody)]

theorem textBody_ignores_page : textBody.Ignores "page" := by
  intro question arguments h
  have hbody : Members.get? question.arguments "body" = Members.get? arguments "body" := by
    rw [← Members.get?_without _ (by decide : "body" ≠ "page"), h, Members.get?_without _ (by decide)]
  unfold textBody
  dsimp only
  rw [hbody]

def replyCall (page : Json) : ResolverCall :=
  ⟨[("id", .string "1"), ("body", .ofInt 42), ("page", page)], [], .atRoot "Query" "reply"⟩

theorem functions_view_reply : ∃ registry compiled,
    compile (.native {}) none replyOverrides (.ofDefinitions replyDocument) = .ok registry ∧
      compiled ∈ registry.fields ∧ compiled.functions.length = 1 ∧ compiled.Views registry := by
  have hrun : ((compile (.native {}) none replyOverrides (.ofDefinitions replyDocument)).toOption.any
      fun registry => registry.fields.any fun compiled => compiled.functions.length = 1) = true := by
    decide +kernel
  obtain ⟨registry, hcompile, hregistry⟩ := exists_ok_of_any hrun
  obtain ⟨compiled, hcompiled, hfunctions⟩ := List.any_eq_true.1 hregistry
  exact ⟨registry, compiled, hcompile, hcompiled, of_decide_eq_true hfunctions,
    functions_view hcompile hcompiled⟩

/-- The two calls differ in `page`, which the function `Ignores`, and `body` is converted in both. Where the
page is refused the function is shown the number. -/
theorem verdict_turned_by_sibling : ∃ registry compiled function,
    compile (.native {}) none replyOverrides (.ofDefinitions replyDocument) = .ok registry ∧
      compiled ∈ registry.fields ∧ compiled.functions = [function] ∧ function.function.Ignores "page" ∧
      (replyCall (.ofInt 1)).SameBut "page" (replyCall (.string "x")) ∧
      compiled.Converts registry "body" (.ofInt 42) (.string "42") ∧
      function.failure? (compiled.view (replyCall (.ofInt 1))) = none ∧
      Members.get? (compiled.view (replyCall (.string "x"))).arguments "body" = some (.ofInt 42) ∧
      function.failure? (compiled.view (replyCall (.string "x"))) ≠ none := by
  have hrun : ((compile (.native {}) none replyOverrides (.ofDefinitions replyDocument)).toOption.any
      fun registry => registry.fields.any fun compiled =>
        compiled.functions.all (fun function =>
          (function.failure? (compiled.view (replyCall (.ofInt 1)))).isNone &&
            (function.failure? (compiled.view (replyCall (.string "x")))).isSome) &&
        !compiled.accepts (replyCall (.string "x")) &&
        (Fragment.property? (registry.fragment compiled.unitId) "body").any fun fragment =>
          (compiled.validator.convert? fragment (.ofInt 42)).any fun converted =>
            converted.string? = some "42") = true := by decide +kernel
  obtain ⟨registry, hcompile, hregistry⟩ := exists_ok_of_any hrun
  obtain ⟨compiled, hcompiled, hfield⟩ := List.any_eq_true.1 hregistry
  simp only [Bool.and_eq_true, Bool.not_eq_true'] at hfield
  obtain ⟨⟨hverdicts, hrefused⟩, hproperty⟩ := hfield
  obtain ⟨type, field, htakes, -, hfunctions⟩ := functions_of_compile hcompile hcompiled
  obtain rfl := List.mem_singleton.1 htakes.declared
  obtain rfl := List.mem_singleton.1 htakes.callable
  rw [hfunctions] at hverdicts
  obtain ⟨haccepts, hrejects⟩ := Bool.and_eq_true_iff.1 (List.all_eq_true.1 hverdicts _ List.mem_cons_self)
  obtain ⟨fragment, hfragment, hconvert⟩ := (Option.any_eq_true _ _).1 hproperty
  obtain ⟨converted, hconverted, htext⟩ := (Option.any_eq_true _ _).1 hconvert
  obtain rfl : converted = .string "42" := by
    cases converted with
    | string text => exact congrArg Json.string (Option.some.inj (of_decide_eq_true htext))
    | null | bool | number | array | object => cases htext
  refine ⟨registry, compiled, _, hcompile, hcompiled, hfunctions, textBody_ignores_page, ⟨rfl, rfl, rfl⟩,
    ⟨fragment, hfragment, hconverted⟩, Option.isNone_iff_eq_none.1 haccepts, ?_, ?_⟩
  · rw [FieldValidator.view_of_refused hrefused]
    rfl
  · exact Option.isSome_iff_ne_none.1 hrejects

end Registry

end ArgGuard
