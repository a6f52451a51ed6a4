import ArgGuard.Proofs.Interception.Verdict
import ArgGuard.Proofs.Registry.Required

/-!
# Arguments that have to be there

An argument that a function judges has no property in the unit of its field, so nothing but the function
looks at its value. That it is there is what the unit still requires if it refuses `null`, and that `null` is
not its value is for the function to say. So a resolver that is called finds every argument that refuses
`null` and has a function, and the function was asked about the value that the resolver finds and accepted it
(`required_judged`).

An accepting function lets `null` through, and in JSON Schema a schema that takes the address of the document
of all units can take the place of a unit, which then requires nothing (`required_null_or_missing`).
-/

namespace ArgGuard

open JsonSchema

variable {options : BackendOptions} {hook : Option InferenceHook} {overrides : Overrides}
  {graph : TypeGraph} {type : GraphType} {field : GraphField} {argument : GraphArgument}
  {registry : Registry}

theorem ArgumentFunction.question?_of_supplied (function : ArgumentFunction) (call : ResolverCall)
    {value : Json} (h : Members.get? call.arguments function.site.coordinate.argumentName = some value) :
    function.question? call =
      some (function, ⟨function.site, value, call.arguments, call.context, call.info⟩) := by
  rw [question?, h]
  rfl

def Resolver.marks (resolver : Resolver (StateM (List FieldValidator.Mark))) (inForce : InForce)
    (call : ResolverCall) : List FieldValidator.Mark :=
  ((resolver.resolve inForce call).run []).2

def FieldValidator.Mark.call? : FieldValidator.Mark → Option ResolverCall
  | .called call => some call
  | .asked _ => none

theorem FieldValidator.Mark.exists_called {marks : List FieldValidator.Mark} {p : ResolverCall → Bool}
    (h : (marks.any fun mark => mark.call?.any p) = true) : ∃ seen, .called seen ∈ marks ∧ p seen = true := by
  obtain ⟨mark, hmark, hcall⟩ := List.any_eq_true.1 h
  cases mark with
  | asked => cases hcall
  | called seen => exact ⟨seen, hmark, hcall⟩

/-- What the resolver behind `Resolver.guarded` is called with. -/
theorem FieldValidator.called_behind {field : FieldValidator} {inForce : InForce} {layer : LayerId}
    {resolver : ResolverCall → Resolution} {call seen : ResolverCall}
    (hfield : (inForce layer).field? field.coordinate = some field)
    (h : .called seen ∈
      (Resolver.guarded layer field.coordinate (.host (noting resolver))).marks inForce call) :
    ∃ arguments, field.validator.validate (.object call.arguments) = .ok (.object arguments) ∧
      seen = { call with arguments } ∧ ∀ question ∈ field.questions seen, question.answer = .ok () := by
  rw [Resolver.marks] at h
  rcases field.checkArguments_cases call.arguments with ⟨arguments, hpassed, -⟩ | ⟨failures, hfailed, -⟩
  · by_cases hanswers : ∀ question ∈ field.questions { call with arguments }, question.answer = .ok ()
    · rw [(goesThrough_of_passed hfield hpassed hanswers).resolve] at h
      cases List.mem_singleton.1 h
      exact ⟨arguments, hpassed, rfl, hanswers⟩
    · simp only [not_forall] at hanswers
      obtain ⟨question, hquestion, hanswer⟩ := hanswers
      rw [(isRefused_of_rejected hfield hpassed hquestion hanswer).resolve] at h
      cases h
  · rw [(isRefused_of_invalid hfield hfailed).resolve] at h
    cases h

namespace Registry

/-- A resolver that is called behind a guard finds every argument that is `nonNull` and has a function, and
the function has accepted what it finds. -/
theorem required_judged {function : ValidationFunction} (inForce : InForce) (layer : LayerId)
    (hcompile : compile options hook overrides graph = .ok registry)
    (hinForce : (inForce layer).fields = registry.fields) (hnames : graph.HasNames)
    (hhome : registry.LeadsHome options) (htakes : graph.TakesArguments type field)
    (hargument : argument ∈ field.arguments) (hnonNull : argument.position.nonNull = true)
    (hfunction : overrides.argument? (Drafting.argumentCoordinate type field argument) =
      some (.function function)) (resolver : ResolverCall → Resolution) (call seen : ResolverCall)
    (hcalled : .called seen ∈
      (Resolver.guarded layer ⟨type.name, field.name⟩ (.host (FieldValidator.noting resolver))).marks
        inForce call) :
    ∃ value, Members.get? seen.arguments argument.name = some value ∧
      function.judge ⟨⟨Drafting.argumentCoordinate type field argument, argument.position⟩, value,
        seen.arguments, seen.context, seen.info⟩ = .ok () := by
  obtain ⟨blueprint, hof, hcarries⟩ := compile_carries hcompile
  obtain ⟨compiled, unit, hfield, -⟩ := hcarries.exists_validator hof htakes
  obtain ⟨hmem, hcoordinate⟩ := field?_eq_some hfield
  have hguarding : (inForce layer).field? compiled.coordinate = some compiled := by
    rwa [field?, hinForce, ← field?, hcoordinate]
  rw [← hcoordinate] at hcalled
  obtain ⟨arguments, hpassed, rfl, hanswers⟩ := FieldValidator.called_behind hguarding hcalled
  -- the names that are accepted are the names that were supplied
  have hname : argument.name ∈ Members.names arguments := by
    obtain ⟨converted, hconverted, hsame⟩ := compiled.validator.validate_object hpassed
    cases hconverted
    rw [hsame]
    exact required_supplied hcompile hnames hhome htakes hfield
      (Drafting.mem_required_of_function hargument hnonNull ⟨function, hfunction⟩) hpassed
  obtain ⟨value, hvalue⟩ := Option.isSome_iff_exists.1 (Members.mem_names_iff.1 hname)
  have hjudge : ⟨⟨Drafting.argumentCoordinate type field argument, argument.position⟩, function⟩ ∈
      compiled.functions := by
    rw [functions_of_field? hcompile htakes hfield]
    exact Overrides.mem_judges_iff.2
      ⟨argument, hargument, Overrides.function?_eq_some_iff.2 hfunction, rfl⟩
  have hquestion := ArgumentFunction.question?_of_supplied
    ⟨⟨Drafting.argumentCoordinate type field argument, argument.position⟩, function⟩
    { call with arguments } hvalue
  exact ⟨value, hvalue, hanswers _ (List.mem_filterMap.2 ⟨_, hjudge, hquestion⟩)⟩

/-- A field with an argument that refuses `null`, and one of which nothing is known. -/
def noteDocument : List TypeDefinition :=
  [⟨"Query", [], .object
    [⟨"note", [⟨"id", .named "ID" true, []⟩, ⟨"extra", .named "Blob" false, []⟩], .named "String" false, []⟩]⟩]

def noteOverrides (function : ValidationFunction) (extra : Fragment) : Overrides where
  arguments :=
    [(⟨"Query", "note", "id"⟩, .function function), (⟨"Query", "note", "extra"⟩, .fragment extra)]

def acceptText : ValidationFunction where
  judge question := if question.value.string?.isSome then .ok () else .error ⟨"is no text", none⟩

def acceptAll : ValidationFunction where
  judge _ := .ok ()

/-- The guard before a resolver that answers nothing. -/
def guardedNote : Resolver (StateM (List FieldValidator.Mark)) :=
  .guarded 0 ⟨"Query", "note"⟩ (.host (FieldValidator.noting fun _ => .ok .null))

def noteCall (arguments : Members Json) : ResolverCall := ⟨arguments, [], .atRoot "Query" "note"⟩

/-- The unit of the field in JSON Schema, where nothing is asked of the other argument. -/
def noteUnit : Fragment :=
  [("type", .string "object"),
    ("properties", .object [("extra", .object [("$comment", .string "#/definitions/Query.note.extra")])]),
    ("required", .array [.string "id"]), ("$comment", .string "#/definitions/Query.note")]

theorem unnamed_noteUnit : Unnamed .draft7 (.object noteUnit) := by
  have hinner : Draft.subschemas .draft7 noteUnit =
      [.object [("$comment", .string "#/definitions/Query.note.extra")]] := rfl
  refine .schema rfl rfl fun contents hcontents => ?_
  rw [hinner, List.mem_singleton] at hcontents
  rw [hcontents]
  exact .schema rfl rfl fun contents hcontents => by cases hcontents

theorem required_judged_note : ∃ registry seen,
    compile (.jsonSchema {}) none (noteOverrides acceptText []) (.ofDefinitions noteDocument) =
      .ok registry ∧
    .called seen ∈ guardedNote.marks (fun _ => registry) (noteCall [("id", .string "n1")]) ∧
    ∃ value, Members.get? seen.arguments "id" = some value ∧
      acceptText.judge ⟨⟨⟨"Query", "note", "id"⟩, .named "ID" (.builtin .id) true⟩, value,
        seen.arguments, seen.context, seen.info⟩ = .ok () := by
  have hrun : ((compile (.jsonSchema {}) none (noteOverrides acceptText [])
      (.ofDefinitions noteDocument)).toOption.any fun registry =>
        (guardedNote.marks (fun _ => registry) (noteCall [("id", .string "n1")])).any fun mark =>
          mark.call?.any fun seen => Members.contains seen.arguments "id") = true := by decide +kernel
  obtain ⟨registry, hcompile, hregistry⟩ := exists_ok_of_any hrun
  obtain ⟨seen, hcalled, -⟩ := FieldValidator.Mark.exists_called hregistry
  have hhome : registry.LeadsHome (.jsonSchema {}) := by
    obtain ⟨blueprint, hof, hcarries⟩ := compile_carries hcompile
    have hunits : blueprint.units = [("#/definitions/Query.note", noteUnit)] := by
      rw [(Blueprint.ofGraph_spec hof).1]
      rfl
    refine leadsHome_of_unnamed rfl fun unit hunit => ?_
    have hmem : (unit.id, unit.fragment) ∈ blueprint.units :=
      hcarries.units ▸ List.mem_map.2 ⟨unit, hunit, rfl⟩
    rw [hunits, List.mem_singleton] at hmem
    rw [(Prod.mk.inj hmem).2]
    exact unnamed_noteUnit
  exact ⟨registry, seen, hcompile, hcalled, required_judged (fun _ => registry) 0 hcompile rfl (by decide)
    hhome ⟨List.mem_singleton.2 rfl, rfl, rfl, List.mem_singleton.2 rfl⟩ List.mem_cons_self rfl rfl _ _ _
    hcalled⟩

/-- A schema that takes the address of the document of all units, with a definition that requires nothing. -/
def homeless : Fragment :=
  [("$id", .string "json-schema:///gql-validate/units"),
    ("definitions", .object [("Query.note", .object [])])]

/-- `acceptAll` lets `null` through at an argument that is `nonNull`, and beside `homeless`, whose `$id` is
the address of the document of all units, the argument may be missing. -/
theorem required_null_or_missing :
    (∃ registry seen,
      compile (.native {}) none (noteOverrides acceptAll []) (.ofDefinitions noteDocument) = .ok registry ∧
      .called seen ∈ guardedNote.marks (fun _ => registry) (noteCall [("id", .null)]) ∧
      Members.get? seen.arguments "id" = some .null) ∧
    ∃ registry seen,
      compile (.jsonSchema {}) none (noteOverrides acceptAll homeless) (.ofDefinitions noteDocument) =
        .ok registry ∧
      .called seen ∈ guardedNote.marks (fun _ => registry) (noteCall []) ∧
      Members.get? seen.arguments "id" = none := by
  constructor
  · have hrun : ((compile (.native {}) none (noteOverrides acceptAll [])
        (.ofDefinitions noteDocument)).toOption.any fun registry =>
          (guardedNote.marks (fun _ => registry) (noteCall [("id", .null)])).any fun mark =>
            mark.call?.any fun seen => (Members.get? seen.arguments "id").any Json.isNull) = true := by
      decide +kernel
    obtain ⟨registry, hcompile, hregistry⟩ := exists_ok_of_any hrun
    obtain ⟨seen, hcalled, hseen⟩ := FieldValidator.Mark.exists_called hregistry
    obtain ⟨value, hvalue, hnull⟩ := (Option.any_eq_true _ _).1 hseen
    obtain rfl : value = .null := by
      cases value with
      | null => rfl
      | bool | number | string | array | object => cases hnull
    exact ⟨registry, seen, hcompile, hcalled, hvalue⟩
  · have hrun : ((compile (.jsonSchema {}) none (noteOverrides acceptAll homeless)
        (.ofDefinitions noteDocument)).toOption.any fun registry =>
          (guardedNote.marks (fun _ => registry) (noteCall [])).any fun mark =>
            mark.call?.any fun seen => (Members.get? seen.arguments "id").isNone) = true := by
      decide +kernel
    obtain ⟨registry, hcompile, hregistry⟩ := exists_ok_of_any hrun
    obtain ⟨seen, hcalled, hseen⟩ := FieldValidator.Mark.exists_called hregistry
    exact ⟨registry, seen, hcompile, hcalled, Option.isNone_iff_eq_none.1 hseen⟩

end Registry

end ArgGuard
