import ArgGuard.Interception.Guard
import ArgGuard.Proofs.Registry.Compiled
import ArgGuard.Proofs.Registry.Plans
import ArgGuard.Proofs.Schema.Positions
import ArgGuard.Proofs.Sdl.Names
import ArgGuard.Proofs.Shape.Places

/-!
# What the failures of a call point at

The path of a failure is a pointer into the value that was refused: an object for a property that it lacks,
and the property itself if it was not expected. In the arguments of a call the first step of the path is
the name of an argument. This rests on three things: the unit of a field admits other properties, so that
none of them is unexpected; it has properties for arguments alone; and the name of an argument is made of
letters, digits and underscores, so that a pointer writes it as it is.
-/

namespace ArgGuard

/-- A graph in which arguments have well-formed names. -/
def TypeGraph.NamesArguments (graph : TypeGraph) : Prop :=
  ∀ type ∈ graph.types, ∀ field ∈ type.fields, ∀ argument ∈ field.arguments,
    argument.name ≠ "" ∧ Sdl.IsName argument.name

instance (graph : TypeGraph) : Decidable graph.NamesArguments :=
  inferInstanceAs (Decidable (∀ type ∈ graph.types, ∀ field ∈ type.fields, ∀ argument ∈ field.arguments,
    argument.name ≠ "" ∧ Sdl.IsName argument.name))

theorem Sdl.IsName.escape_eq {name : String} (h : IsName name) : Pointer.escape name = name := by
  refine Pointer.escape_eq fun c hc => ?_
  have hname := h c hc
  constructor <;> rintro rfl <;> exact absurd hname (by decide)

namespace Shape

variable {rules : CheckRules} {shape inner : Shape} {members : Members Json} {part : Json}
  {failure : CheckFailure}

theorem ComesTo.first_step {step : String} {place : Pointer} (hk : shape.kind ≠ some .ref)
    (h : ComesTo rules shape (.object members) (step :: place) inner part) :
    (∃ property, Members.get? shape.properties step = some property) ∧
      Members.contains members step = true := by
  generalize hplace : step :: place = whole at h
  cases h with
  | here => cases hplace
  | member htarget hshape hmember _ =>
    cases hplace
    have hr := targetOf_resolve htarget
    rw [resolve_of_kind_ne hk] at hr
    cases hr
    exact ⟨⟨_, hshape⟩, Members.contains_iff.2 ⟨_, hmember⟩⟩

theorem path_of_open (hk : shape.kind ≠ some .ref) (hopen : shape.closed = false)
    (h : failure ∈ (check rules shape (.object members)).failures) :
    failure.path = [] ∨ ∃ name rest, failure.path = name :: rest ∧
      (∃ property, Members.get? shape.properties name = some property) ∧
        Members.contains members name = true := by
  obtain ⟨place, inner, part, hplace, own, hown, rfl⟩ := exists_place h
  cases place with
  | cons step place => exact .inr ⟨step, place ++ own.path, rfl, hplace.first_step hk⟩
  | nil =>
    cases hplace
    rcases ownFailures_cases hown with hplain | ⟨hpath, -⟩ | ⟨name, -, -, hrefuses⟩
    · exact .inl hplain.1
    · exact .inl hpath
    · obtain ⟨_, target, heq, htarget, hclosed, -⟩ := hrefuses
      have hr := targetOf_resolve htarget
      rw [resolve_of_kind_ne hk] at hr
      cases hr
      rw [hopen] at hclosed
      cases hclosed

/-- `failure.path` resolves to the part that the check `ComesTo`, or from there to a property that it
`Refuses`. -/
theorem exists_located {value : Json} (h : failure ∈ (check rules shape value).failures) :
    ∃ located, value.resolve? failure.path = some located ∧
      (∀ name, failure.cause = .missingProperty name → ∃ inner,
        ComesTo rules shape value failure.path inner located ∧ Lacks rules inner located name) ∧
      (failure.cause = .unexpectedProperty → ∃ place name inner part, failure.path = place ++ [name] ∧
        ComesTo rules shape value place inner part ∧ Refuses rules inner part name ∧
          part.resolve? [name] = some located) := by
  obtain ⟨place, inner, part, hplace, own, hown, rfl⟩ := exists_place h
  have hpart := hplace.resolve?
  rcases ownFailures_cases hown with ⟨hpath, hexpected, hpresent⟩ | ⟨hpath, missing, hcause, hlacks⟩ |
    ⟨name, hpath, hcause, hrefuses⟩
  · have hsame : (own.below place).path = place := by
      rw [CheckFailure.below, hpath, List.append_nil]
    rw [hsame]
    exact ⟨part, hpart, fun name hname => absurd hname (hpresent name), fun hname => absurd hname hexpected⟩
  · have hsame : (own.below place).path = place := by
      rw [CheckFailure.below, hpath, List.append_nil]
    rw [hsame]
    refine ⟨part, hpart, fun name hname => ?_, fun hname => ?_⟩
    · cases hcause.symm.trans hname
      exact ⟨inner, hplace, hlacks⟩
    · cases hcause.symm.trans hname
  · have hsame : (own.below place).path = place ++ [name] := by rw [CheckFailure.below, hpath]
    obtain ⟨members, target, rfl, htarget, hclosed, hunknown, hthere⟩ := hrefuses
    obtain ⟨located, hlocated⟩ := Members.contains_iff.1 hthere
    have hstep : (Json.object members).resolve? [name] = some located := by
      rw [Json.resolve?_member, hlocated]
      rfl
    rw [hsame]
    refine ⟨located, by rw [Json.resolve?_append, hpart]; exact hstep, fun other hname => ?_, fun _ => ?_⟩
    · cases hcause.symm.trans hname
    · exact ⟨place, name, inner, _, rfl, hplace, ⟨members, target, rfl, htarget, hclosed, hunknown, hthere⟩,
        hstep⟩

end Shape

theorem Drafting.path_of_arguments {drafting : Drafting} {type : GraphType} {field : GraphField}
    {rules : CheckRules} {shape : Shape} {arguments : Members Json} {failure : CheckFailure}
    (hdialect : drafting.dialect = .native)
    (hread : Shape.ofFragment (drafting.argumentsUnit type field).2 = .ok shape)
    (h : failure ∈ (shape.check rules (.object arguments)).failures) :
    failure.path = [] ∨ ∃ argument ∈ field.arguments, ∃ rest, failure.path = argument.name :: rest ∧
      Members.contains arguments argument.name = true := by
  have hkind : shape.kind ≠ some .ref := by
    rw [(declares_argumentsFragment hdialect _).shape_kind hread]
    simp
  rw [argumentsUnit_eq hdialect] at hread
  rcases Shape.path_of_open hkind (object_open hread) h with hpath | ⟨name, rest, hpath, ⟨_, hknown⟩, hthere⟩
  · exact .inl hpath
  · obtain ⟨entry, hentry, rfl⟩ := List.mem_map.1 (object_known hread hknown)
    obtain ⟨argument, hargument, rfl⟩ := mem_planArguments hentry
    exact .inr ⟨argument, hargument, rest, hpath, hthere⟩

namespace ArgumentFailure

variable {failure : ValueFailure}

theorem argument_ofSchema_nil (hpath : failure.path = []) : (ofSchema failure).argument = none := by
  rw [ofSchema, hpath]
  rfl

theorem argument_ofSchema_cons {name : String} {rest : Pointer} (hpath : failure.path = name :: rest)
    (hempty : name ≠ "") (hname : Sdl.IsName name) : (ofSchema failure).argument = some name := by
  have hfull : name.isEmpty = false := by simpa using hempty
  rw [ofSchema, hpath, argumentOf, hfull, if_neg Bool.false_ne_true, hname.escape_eq]

theorem names_argument {declared : List GraphArgument} {arguments : Members Json} {found : CheckFailure}
    (hnames : ∀ argument ∈ declared, argument.name ≠ "" ∧ Sdl.IsName argument.name)
    (h : found.path = [] ∨ ∃ argument ∈ declared, ∃ rest, found.path = argument.name :: rest ∧
      Members.contains arguments argument.name = true) :
    ((ofSchema found.report).argument = none ↔ (ofSchema found.report).path = "") ∧
      ∀ name, (ofSchema found.report).argument = some name →
        (∃ argument ∈ declared, argument.name = name) ∧ Members.contains arguments name = true := by
  rcases h with hpath | ⟨argument, hargument, rest, hpath, hthere⟩
  · have hnone : (ofSchema found.report).argument = none := argument_ofSchema_nil hpath
    refine ⟨iff_of_true hnone (Pointer.text_eq_empty_iff.2 hpath), fun name hname => ?_⟩
    rw [hnone] at hname
    cases hname
  · obtain ⟨hempty, hname⟩ := hnames argument hargument
    have hsome : (ofSchema found.report).argument = some argument.name :=
      argument_ofSchema_cons hpath hempty hname
    refine ⟨iff_of_false (by rw [hsome]; simp) fun hnone => ?_, fun name hargumentName => ?_⟩
    · cases hpath.symm.trans (Pointer.text_eq_empty_iff.1 hnone)
    · cases hsome.symm.trans hargumentName
      exact ⟨⟨argument, hargument, rfl⟩, hthere⟩

end ArgumentFailure

namespace Registry

theorem Compiled.exists_argumentsShape {options : NativeOptions} {drafting : Drafting} {graph : TypeGraph}
    {blueprint : Blueprint} {table : UnitTable} {registry : Registry} {validated : FieldValidator}
    (h : Compiled options blueprint table registry) (hof : Blueprint.ofGraph drafting graph = .ok blueprint)
    (hvalidated : validated ∈ registry.fields) :
    ∃ type ∈ graph.types, ∃ field ∈ type.fields, ∃ shape,
      validated.coordinate = ⟨type.name, field.name⟩ ∧
      validated.validator = nativeValidator options table (drafting.fieldId type field) ∧
      Members.get? table (drafting.fieldId type field) = some shape ∧
      Shape.ofFragment (drafting.argumentsUnit type field).2 = .ok shape := by
  obtain ⟨planned, hplanned, -, rfl⟩ := exists_mem_of_forall₂ h.fields hvalidated
  rw [(Blueprint.ofGraph_spec hof).2.1] at hplanned
  obtain ⟨type, htype, hplanned⟩ := List.mem_flatMap.1 hplanned
  obtain ⟨field, hfield, rfl, hunits⟩ := Drafting.exists_callableField hplanned
  obtain ⟨shape, hshape, hread⟩ := h.reads.get? (Blueprint.get?_units hof htype (hunits field hfield))
  exact ⟨type, htype, field, (GraphType.mem_callableFields_iff.1 hfield).1, shape, rfl, rfl, hshape, hread⟩

/-- Every failure of a refused value points at a part of the value as it was supplied: `resolveText?` finds
an object that `Lacks` a property, or the very property that its shape `Refuses`. And a failure of
`checkArguments` names an argument of the field, one that was supplied, unless it has no path at all. -/
theorem failures_located :
    (∀ (rules : CheckRules) (shape : Shape) (value : Json) (failures : List CheckFailure),
      (shape.check rules value).result = .error failures → failures ≠ [] ∧ ∀ failure ∈ failures,
        ∃ located, value.resolveText? failure.report.path.text = some located ∧
          (∀ name, failure.cause = .missingProperty name → ∃ inner,
            Shape.ComesTo rules shape value failure.path inner located ∧
              Shape.Lacks rules inner located name) ∧
          (failure.cause = .unexpectedProperty → ∃ place name inner part,
            failure.path = place ++ [name] ∧ Shape.ComesTo rules shape value place inner part ∧
              Shape.Refuses rules inner part name ∧ part.resolve? [name] = some located)) ∧
    ∀ (options : NativeOptions) (hook : Option InferenceHook) (overrides : Overrides) (graph : TypeGraph)
      (registry : Registry), graph.NamesArguments →
        compile (.native options) hook overrides graph = .ok registry → ∀ validated ∈ registry.fields,
          ∃ type ∈ graph.types, ∃ field ∈ type.fields, validated.coordinate = ⟨type.name, field.name⟩ ∧
            ∀ arguments, ∀ failure ∈ (validated.checkArguments arguments).2,
              (failure.argument = none ↔ failure.path = "") ∧
              ∀ name, failure.argument = some name →
                (∃ argument ∈ field.arguments, argument.name = name) ∧
                  Members.contains arguments name = true := by
  constructor
  · intro rules shape value failures hrefused
    obtain ⟨hsome, rfl⟩ := Shape.result_eq_error_iff.1 hrefused
    refine ⟨hsome, fun failure hfailure => ?_⟩
    obtain ⟨located, hlocated, hcauses⟩ := Shape.exists_located hfailure
    exact ⟨located, by rw [Json.resolveText?_text]; exact hlocated, hcauses⟩
  · intro options hook overrides graph registry hnames h validated hvalidated
    obtain ⟨blueprint, table, hof, hcompiled⟩ := compile_native h
    obtain ⟨type, htype, field, hfield, shape, hcoordinate, hvalidator, hshape, hread⟩ :=
      hcompiled.exists_argumentsShape hof hvalidated
    refine ⟨type, htype, field, hfield, hcoordinate, fun arguments failure hfailure => ?_⟩
    rw [FieldValidator.checkArguments, hvalidator] at hfailure
    split at hfailure
    · cases hfailure
    · cases hfailure
    · rename_i failures hrefused
      obtain ⟨reported, hreported, rfl⟩ := List.mem_map.1 hfailure
      obtain ⟨found, hfound, rfl⟩ := nativeValidator_error hshape hrefused hreported
      have hpath := Drafting.path_of_arguments rfl hread hfound
      exact ArgumentFailure.names_argument (hnames type htype field hfield) hpath

/-- A document whose field takes a text and a list of whole numbers. -/
def labelDocument : List TypeDefinition :=
  [⟨"Query", [], .object [⟨"label", [⟨"text", .named "String" true, []⟩,
    ⟨"tags", .list (.named "Int" true) false, []⟩], .named "String" false, []⟩]⟩]

/-- Tags of which the second is no number, and no text. -/
def labelArguments : Members Json := [("tags", .array [.ofInt 1, .string "x"])]

/-- An object that knows one property, under a name with a slash and a tilde. -/
def sizeShape : Shape :=
  { kind := some .object, closed := true, properties := [("~w/h", { kind := some .integer })] }

/-- A size that is no number, beside a property that is not known. -/
def oddSize : Json := .object [("~w/h", .string "wide"), ("/", .null)]

theorem failures_located_labels :
    (∃ failures, (sizeShape.check ⟨[], true⟩ oddSize).result = .error failures ∧
      failures.map (·.report.path.text) = ["/~0w~1h", "/~1"] ∧
      ∀ failure ∈ failures, ∃ located, oddSize.resolveText? failure.report.path.text = some located) ∧
    (TypeGraph.ofDefinitions labelDocument).NamesArguments ∧
    ∃ registry, compile (.native {}) none .empty (.ofDefinitions labelDocument) = .ok registry ∧
      ∃ validated ∈ registry.fields,
        (validated.checkArguments labelArguments).2.map (fun failure => (failure.argument, failure.path)) =
          [(none, ""), (some "tags", "/tags/1")] ∧
        ∀ failure ∈ (validated.checkArguments labelArguments).2,
          (failure.argument = none ↔ failure.path = "") ∧
          ∀ name, failure.argument = some name → Members.contains labelArguments name = true := by
  have hnames : (TypeGraph.ofDefinitions labelDocument).NamesArguments := by decide
  refine ⟨?_, hnames, ?_⟩
  · have hpaths : (sizeShape.check ⟨[], true⟩ oddSize).failures.map (·.report.path.text) =
        ["/~0w~1h", "/~1"] := by decide +kernel
    have hrefused : (sizeShape.check ⟨[], true⟩ oddSize).result =
        .error (sizeShape.check ⟨[], true⟩ oddSize).failures := by
      refine Shape.result_eq_error_iff.2 ⟨fun hempty => ?_, rfl⟩
      rw [hempty] at hpaths
      cases hpaths
    refine ⟨_, hrefused, hpaths, fun failure hfailure => ?_⟩
    obtain ⟨located, hlocated, -⟩ := (failures_located.1 _ _ _ _ hrefused).2 failure hfailure
    exact ⟨located, hlocated⟩
  · have hrun : ((compile (.native {}) none .empty (.ofDefinitions labelDocument)).toOption.any fun registry =>
        registry.fields.any fun validated =>
          (validated.checkArguments labelArguments).2.map (fun failure => (failure.argument, failure.path)) =
            [(none, ""), (some "tags", "/tags/1")]) = true := by decide +kernel
    obtain ⟨registry, h, hrun⟩ := exists_ok_of_any hrun
    obtain ⟨validated, hvalidated, hrun⟩ := List.any_eq_true.1 hrun
    refine ⟨registry, h, validated, hvalidated, of_decide_eq_true hrun, fun failure hfailure => ?_⟩
    obtain ⟨_, -, _, -, -, hlocated⟩ := failures_located.2 _ _ _ _ _ hnames h validated hvalidated
    obtain ⟨hnone, hsome⟩ := hlocated labelArguments failure hfailure
    exact ⟨hnone, fun name hname => (hsome name hname).2⟩

end Registry

end ArgGuard
