import ArgGuard.Proofs.Backend.History
import ArgGuard.Proofs.Registry.StandardEngine
import ArgGuard.Proofs.Shape.Fits

/-!
# Agreement of the dialects

One graph can be compiled in either dialect. What each of the two validators of a field accepts, where
nothing is converted, is told by the same notion of a value that fits its position: in the native dialect by
the check itself (`Compiled.takes_iff`), and in JSON Schema by any engine that follows the seventh draft
(`Linked.takes_iff`). So for plain graphs both registries can be compiled, and they agree (`dialects_agree`).
-/

namespace ArgGuard

open JsonSchema

variable {graph : TypeGraph} {type : GraphType} {field : GraphField} {blueprint : Blueprint}

namespace Registry

/-! ### Both registries -/

section
variable [Engine] (hplain : graph.Plain) (hclassified : graph.Classified)
include hplain hclassified

theorem exists_native (options : NativeOptions) :
    ∃ registry, compile (.native options) none {} graph = .ok registry := by
  have hdrawable := Drafting.drawable_ofDialect hplain .native
  exact compile_total hdrawable rfl (Drafting.resolved_of_settled hclassified .native hplain.settled)
    (fun _ _ _ => fault?_native) (compile_native_total hdrawable.distinct (Drafting.exists_shape graph))

theorem exists_jsonSchema {options : JsonSchemaOptions} (hdraft : options.draft = .draft7)
    (hengine : Engine.FollowsDraftSeven options.reading graph.schemaDefinitions) :
    ∃ registry, compile (.jsonSchema options) none {} graph = .ok registry := by
  have hdrawable := Drafting.drawable_ofDialect hplain .jsonSchema
  obtain ⟨loaded, hload, hprepare⟩ := hengine.prepares
  have hfault : ∀ unit ∈ (Drafting.ofDialect .jsonSchema graph).units graph, ∀ others,
      Members.contains others unit.1 = false →
        Backend.fault? ⟨.jsonSchema options, others⟩ unit.1 unit.2 = none := by
    intro unit hunit others hothers
    obtain ⟨name, hname, hdefinition⟩ := exists_definition_of_unit hplain hunit
    refine Backend.fault?_eq_none_iff.2 ⟨hothers, ?_⟩
    rintro _ ⟨⟩
    rw [hname, afterText?_append, hdraft]
    exact ⟨rfl, hengine.admits _ (Members.mem_of_get? hdefinition)⟩
  have hlink : ∀ unit ∈ (Drafting.ofDialect .jsonSchema graph).units graph, ∃ validator, Backend.linkUnit
      ⟨.jsonSchema options, (Drafting.ofDialect .jsonSchema graph).units graph⟩ options unit.1 unit.2 =
        .ok validator := by
    intro unit hunit
    obtain ⟨name, hname, hdefinition⟩ := exists_definition_of_unit hplain hunit
    obtain ⟨errors, herrors, -⟩ := hprepare name _ hdefinition
    rw [← hdraft] at hload herrors
    rw [← hname] at herrors
    exact ⟨_, Backend.linkUnit_eq_ok_iff.2 ⟨loaded, errors, hload, herrors, rfl⟩⟩
  exact compile_total hdrawable rfl (Drafting.resolved_of_settled hclassified .jsonSchema hplain.settled)
    hfault (compile_jsonSchema_total hdrawable.distinct hlink)

end

/-! ### The native dialect -/

namespace Compiled

variable {options : NativeOptions} {table : UnitTable} {registry : Registry}
  (h : Compiled options blueprint table registry)
  (hof : Blueprint.ofGraph (.ofDialect .native graph) graph = .ok blueprint) (hplain : graph.Plain)
include h hof hplain

theorem hasTypes : table.HasTypes graph := by
  intro name type hfind hinput
  obtain ⟨htype, rfl⟩ := TypeGraph.find?_eq_some_iff.1 hfind
  have hinference := Drafting.isPlain_ofDialect .native graph
  have hd := hplain.distinctFields type htype
  have hunit := Blueprint.get?_units hof htype (Drafting.typeUnit_mem hplain htype hinput)
  rw [Drafting.typeUnit_bare hinference rfl hd] at hunit
  obtain ⟨shape, hshape, hread⟩ := h.reads.get? hunit
  exact ⟨shape, hshape, Shape.hasSlots_of_read hinference hd hread⟩

theorem takes_iff (hclassified : graph.Classified) (hcoercing : options.coercing = false)
    (htype : type ∈ graph.types) (hfield : field ∈ type.fields) {validated : FieldValidator}
    (hvalidated : validated ∈ registry.fields) (hcoordinate : validated.coordinate = ⟨type.name, field.name⟩)
    (members : Members Json) (answer : Json) :
    validated.validator.validate (.object members) = .ok answer ↔
      answer = .object members ∧ Fills graph.enumerations (Fits graph false) field.slots members := by
  have hinference := Drafting.isPlain_ofDialect .native graph
  have hd := hplain.distinctArguments type htype field hfield
  obtain ⟨planned, hplanned, -, rfl⟩ := exists_mem_of_forall₂ h.fields hvalidated
  obtain ⟨rfl, hself⟩ := Blueprint.plannedField_eq hof hplain htype hfield hplanned hcoordinate
  have hunit := Blueprint.get?_units hof htype hself
  rw [Drafting.argumentsUnit_bare hinference rfl hd] at hunit
  obtain ⟨shape, hshape, hread⟩ := h.reads.get? hunit
  have hslots : shape.HasSlots graph.enumerations field.slots :=
    Shape.hasSlots_of_read hinference hd hread
  have htarget : Shape.targetOf ⟨table, options.coercing⟩ shape (.object members) =
      .ok (shape, .object members) :=
    (Shape.targetOf_kind_iff hcoercing hslots.kind (by decide)).2 ⟨rfl, rfl⟩
  have hfits : Fills graph.enumerations (Shape.Accepts ⟨table, options.coercing⟩ graph.enumerations)
      field.slots members ↔ Fills graph.enumerations (Fits graph false) field.slots members :=
    Fills.congr fun slot hslot part _ =>
      Shape.accepts_iff_fits hcoercing (h.hasTypes hof hplain) (hplain.settlesInputs hclassified)
        (hplain.settles_slots hclassified htype hfield slot hslot)
  refine (nativeValidator_eq_ok_iff hshape).trans ?_
  rw [Shape.check_value_eq hcoercing, Shape.accepts_slots_iff hslots hd htarget, hfits, and_comm, eq_comm]

end Compiled

/-! ### JSON Schema -/

/-- As `Compiled.takes_iff`, since `argumentsUnit` is a definition that the engine prepared. -/
theorem Linked.takes_iff [Engine] {options : JsonSchemaOptions} {registry : Registry}
    (h : Linked options blueprint registry)
    (hof : Blueprint.ofGraph (.ofDialect .jsonSchema graph) graph = .ok blueprint) (hplain : graph.Plain)
    (hclassified : graph.Classified) (hcoercing : options.coercing = false)
    (hdraft : options.draft = .draft7)
    (hengine : Engine.FollowsDraftSeven options.reading graph.schemaDefinitions)
    (htype : type ∈ graph.types) (hfield : field ∈ type.fields)
    {validated : FieldValidator} (hvalidated : validated ∈ registry.fields)
    (hcoordinate : validated.coordinate = ⟨type.name, field.name⟩) (members : Members Json) (answer : Json) :
    validated.validator.validate (.object members) = .ok answer ↔
      answer = .object members ∧ Fills graph.enumerations (Fits graph false) field.slots members := by
  obtain ⟨planned, hplanned, unit, hunit, rfl⟩ := exists_mem_of_forall₂ h.fields hvalidated
  obtain ⟨rfl, hself⟩ := Blueprint.plannedField_eq hof hplain htype hfield hplanned hcoordinate
  have hlink := h.linkUnit (Blueprint.ofGraph_spec hof).2.2 (Blueprint.get?_units hof htype hself) hunit
  obtain ⟨loaded, errors, hload, hprepare, hvalidator⟩ := Backend.linkUnit_eq_ok_iff.1 hlink
  have hunits : blueprint.units = (Drafting.ofDialect .jsonSchema graph).units graph :=
    (Blueprint.ofGraph_spec hof).1
  -- the engine was asked for this definition of the document
  have herrors : errors (.object members) = [] ↔
      Fills graph.enumerations (Fits graph false) field.slots members := by
    obtain ⟨known, hknown, hprepares⟩ := hengine.prepares
    rw [hdraft, hunits] at hload
    cases hknown.symm.trans hload
    obtain ⟨found, hfound, hvalid⟩ := hprepares _ _ (get?_schemaDefinitions hplain htype hself rfl)
    rw [hdraft] at hprepare
    cases hfound.symm.trans hprepare
    rw [hvalid, valid_argumentsUnit_iff hplain hclassified htype hfield]
    simp
  rw [hvalidator, hcoercing, if_neg Bool.false_ne_true, Validator.validate, Validator.checkSchema, ← herrors]
  cases errors (.object members) with
  | nil => simp [eq_comm]
  | cons => simp

/-! ### The two dialects -/

/-- With an engine that follows the seventh draft, a plain graph can be compiled in either dialect. Without
conversion the two registries have the same units, up to `definitionsPath`, and the same validated fields;
no validator changes an object of arguments, and the two of a field accept the same ones. -/
theorem dialects_agree [Engine] (definitions : List TypeDefinition) (assertsFormats : Option Bool)
    (hplain : (TypeGraph.ofDefinitions definitions).Plain)
    (hengine : Engine.FollowsDraftSeven ⟨assertsFormats⟩ (TypeGraph.ofDefinitions definitions).schemaDefinitions) :
    ∃ native json,
      compile (.native { coercing := false }) none {} (.ofDefinitions definitions) = .ok native ∧
      compile (.jsonSchema { coercing := false, draft := .draft7, assertsFormats }) none {}
        (.ofDefinitions definitions) = .ok json ∧
      json.units.map (·.id) = native.units.map (fun unit => definitionsPath ++ unit.id) ∧
      json.fields.map (·.coordinate) = native.fields.map (·.coordinate) ∧
      ∀ type ∈ (TypeGraph.ofDefinitions definitions).types, ∀ field ∈ type.fields,
        ∀ validated ∈ native.fields, ∀ compared ∈ json.fields,
          validated.coordinate = ⟨type.name, field.name⟩ →
          compared.coordinate = ⟨type.name, field.name⟩ →
            ∀ members,
              (∀ answer, validated.validator.validate (.object members) = .ok answer →
                answer = .object members) ∧
              (∀ answer, compared.validator.validate (.object members) = .ok answer →
                answer = .object members) ∧
              (validated.validator.validate (.object members) = .ok (.object members) ↔
                compared.validator.validate (.object members) = .ok (.object members)) := by
  have hclassified := TypeGraph.ofDefinitions_classified definitions
  obtain ⟨native, hnative⟩ := exists_native hplain hclassified { coercing := false }
  obtain ⟨json, hjson⟩ : ∃ json, compile (.jsonSchema { coercing := false, draft := .draft7, assertsFormats })
      none {} (.ofDefinitions definitions) = .ok json := exists_jsonSchema hplain hclassified rfl hengine
  obtain ⟨blueprint, table, hof, hcompiled⟩ := compile_native hnative
  obtain ⟨other, hother, hlinked⟩ := compile_jsonSchema hjson
  refine ⟨native, json, hnative, hjson, ?_, ?_, ?_⟩
  · have hnames : Members.names blueprint.units = (TypeGraph.ofDefinitions definitions).unitNames := by
      rw [(Blueprint.ofGraph_spec hof).1]
      exact Drafting.names_units_native _
    have hothers : Members.names other.units =
        (TypeGraph.ofDefinitions definitions).unitNames.map (definitionsPath ++ ·) := by
      rw [(Blueprint.ofGraph_spec hother).1]
      exact Drafting.names_units_jsonSchema _
    rw [hlinked.names, hothers, ← hnames, ← hcompiled.names, List.map_map]
    rfl
  · rw [hlinked.coordinates, hcompiled.coordinates, Blueprint.coordinates_fields hof hother]
  · intro type htype field hfield validated hvalidated compared hcompared hcoordinate hsame members
    have hnativeTakes := hcompiled.takes_iff hof hplain hclassified rfl htype hfield hvalidated hcoordinate
      members
    have hjsonTakes := hlinked.takes_iff hother hplain hclassified rfl rfl hengine htype hfield hcompared
      hsame members
    refine ⟨fun answer hanswer => ((hnativeTakes answer).1 hanswer).1,
      fun answer hanswer => ((hjsonTakes answer).1 hanswer).1, ?_⟩
    rw [hjsonTakes, hnativeTakes]

/-- A document with a field that takes a page and filters, which refer to themselves. -/
def pagesDocument : List TypeDefinition :=
  [⟨"Order", [], .enumeration ["ASC", "DESC"]⟩,
    ⟨"Filter", [], .inputObject [⟨"limit", .named "Int" true, []⟩, ⟨"order", .named "Order" false, []⟩,
      ⟨"others", .list (.named "Filter" true) false, []⟩]⟩,
    ⟨"Query", [], .object
      [⟨"pages", [⟨"filter", .named "Filter" true, []⟩, ⟨"page", .named "Int" true, []⟩,
        ⟨"fuzzy", .named "Boolean" false, []⟩], .named "String" false, []⟩]⟩]

theorem plain_pagesDocument : (TypeGraph.ofDefinitions pagesDocument).Plain where
  names := by decide
  distinctFields := by decide
  distinctArguments := by decide
  inputObjects := by decide
  arguments := by decide

theorem followsDraftSeven_pages :
    Engine.standard.FollowsDraftSeven ⟨none⟩ (TypeGraph.ofDefinitions pagesDocument).schemaDefinitions := by
  have hprepares : ((Engine.standard.load .draft7
      (documentOf (TypeGraph.ofDefinitions pagesDocument).schemaDefinitions)).toOption.any fun library =>
        (TypeGraph.ofDefinitions pagesDocument).schemaDefinitions.all fun definition =>
          (Engine.standard.prepare .draft7 ⟨none⟩ library (definitionsPath ++ definition.1)).isOk) = true := by
    decide +kernel
  cases hload : Engine.standard.load .draft7
      (documentOf (TypeGraph.ofDefinitions pagesDocument).schemaDefinitions) with
  | error error =>
    rw [hload] at hprepares
    cases hprepares
  | ok library =>
    rw [hload] at hprepares
    exact followsDraftSeven_standard plain_pagesDocument hload (TypeGraph.ofDefinitions_classified _)
      (by decide) (by decide +kernel) fun definition hdefinition =>
        exists_ok_of_isOk (List.all_eq_true.1 hprepares definition hdefinition)

/-- A filter inside a filter. -/
def pagesArguments : Members Json :=
  [("filter", .object [("limit", .ofInt 5), ("order", .string "ASC"),
    ("others", .array [.object [("limit", .ofInt 7), ("order", .null)]])]), ("page", .ofInt 2)]

theorem dialects_agree_pages :
    Engine.standard.FollowsDraftSeven ⟨none⟩ (TypeGraph.ofDefinitions pagesDocument).schemaDefinitions ∧
    ∃ native json,
      compile (.native { coercing := false }) none {} (.ofDefinitions pagesDocument) = .ok native ∧
      compile (.jsonSchema { coercing := false }) none {} (.ofDefinitions pagesDocument) = .ok json ∧
      json.units.map (·.id) = native.units.map (fun unit => definitionsPath ++ unit.id) ∧
      ∃ validated ∈ native.fields, ∃ compared ∈ json.fields,
        validated.validator.validate (.object pagesArguments) = .ok (.object pagesArguments) ∧
        compared.validator.validate (.object pagesArguments) = .ok (.object pagesArguments) := by
  have hpages : ((compile (.native { coercing := false }) none {}
      (.ofDefinitions pagesDocument)).toOption.any fun registry => registry.fields.any fun validated =>
        validated.coordinate = ⟨"Query", "pages"⟩ &&
          (validated.validator.validate (.object pagesArguments)).isOk) = true := by decide +kernel
  obtain ⟨native, json, hnative, hjson, hunits, hfields, hagree⟩ :=
    dialects_agree pagesDocument none plain_pagesDocument followsDraftSeven_pages
  rw [hnative] at hpages
  obtain ⟨validated, hvalidated, hpages⟩ := List.any_eq_true.1 hpages
  obtain ⟨hcoordinate, haccepted⟩ := Bool.and_eq_true_iff.1 hpages
  have hcoordinate := of_decide_eq_true hcoordinate
  have hnamed : ⟨"Query", "pages"⟩ ∈ json.fields.map (·.coordinate) := by
    rw [hfields, ← hcoordinate]
    exact List.mem_map_of_mem hvalidated
  obtain ⟨compared, hcompared, hsame⟩ := List.mem_map.1 hnamed
  obtain ⟨hkept, -, hiff⟩ := hagree _ (List.mem_of_getElem? (i := 2) rfl) _ (List.mem_singleton.2 rfl) validated
    hvalidated compared hcompared hcoordinate hsame pagesArguments
  obtain ⟨answer, hanswer⟩ := exists_ok_of_isOk haccepted
  obtain rfl := hkept answer hanswer
  exact ⟨followsDraftSeven_pages, native, json, hnative, hjson, hunits, validated, hvalidated, compared,
    hcompared, hanswer, hiff.1 hanswer⟩

end Registry

end ArgGuard
