import ArgGuard.Proofs.JsonSchema.Engine
import ArgGuard.Proofs.JsonSchema.Fits
import ArgGuard.Proofs.Registry.PlainDocument

/-!
# The standard engine on plain graphs

What `Engine.standard` prepares of a plain graph goes unit by unit: no unit has an identifier, so every
reference leads into the document, and nothing is wrong with the values that fit strictly
(`prepare_inputUnit_iff`, `prepare_typeUnit_iff`, `prepare_argumentsUnit_iff`). The strict reading refuses
doubles where an `Int` may be `null`, and nothing else. So on a graph that takes no such `Int` the engine
follows the seventh draft, as far as it can load and prepare the document (`followsDraftSeven_standard`).
-/

namespace ArgGuard

open JsonSchema

variable {graph : TypeGraph} {type : GraphType} {field : GraphField} {unit : String × Fragment}
  {name : String} {value : Json} {position : Position}

/-! ### Graphs without an `Int` that may be `null` -/

/-- Whether no `Int` may be `null` at a position. -/
def Position.refusesNullInts : Position → Bool
  | named name _ nonNull => name ≠ "Int" || nonNull
  | list item _ => item.refusesNullInts

/-- A graph in which no `Int` that is taken may be `null`. -/
def TypeGraph.RefusesNullInts (graph : TypeGraph) : Prop :=
  ∀ type ∈ graph.types, (type.kind = .inputObject → ∀ slot ∈ type.slots, slot.2.refusesNullInts = true) ∧
    ∀ field ∈ type.fields, ∀ slot ∈ field.slots, slot.2.refusesNullInts = true

instance (graph : TypeGraph) : Decidable graph.RefusesNullInts :=
  inferInstanceAs (Decidable (∀ type ∈ graph.types,
    (type.kind = .inputObject → ∀ slot ∈ type.slots, slot.2.refusesNullInts = true) ∧
      ∀ field ∈ type.fields, ∀ slot ∈ field.slots, slot.2.refusesNullInts = true))

theorem Stands.refusesNullInts {inner : Position} {part : Json} (h : Stands graph position value inner part)
    (hrefuses : graph.RefusesNullInts) (hgraph : graph.SettlesInputs) (hsettles : graph.Settles position)
    (hposition : position.refusesNullInts = true) : inner.refusesNullInts = true := by
  induction h with
  | here => exact hposition
  | item _ _ ih => exact ih hsettles hposition
  | field hfind hslot _ _ ih =>
    obtain ⟨found, htype, hname, hinput⟩ := hsettles.1.inputObject rfl
    cases hfind.symm.trans (TypeGraph.find?_eq_some_iff.2 ⟨htype, hname⟩)
    exact ih ((hgraph _ htype hinput).2 _ hslot) ((hrefuses _ htype).1 hinput _ hslot)

theorem fits_strict_iff_of_refuses (hrefuses : graph.RefusesNullInts) (hgraph : graph.SettlesInputs)
    (hsettles : graph.Settles position) (hposition : position.refusesNullInts = true) :
    Fits graph true position value ↔ Fits graph false position value := by
  rw [fits_strict_iff, and_iff_left]
  intro leaf x hstands
  have hint := hstands.refusesNullInts hrefuses hgraph hsettles hposition
  simp [Position.refusesNullInts] at hint

/-! ### How units read -/

section
variable {reading : Reading} {context : Context} (hplain : graph.Plain) (htype : type ∈ graph.types)
include hplain htype

theorem own_typeUnit (hdraft : context.draft = .draft7) :
    reading.own context ((Drafting.ofDialect .jsonSchema graph).typeUnit type).2 =
      slotsSchema context graph.enumerations type.slots true := by
  have hinference := Drafting.isPlain_ofDialect .jsonSchema graph
  rw [Drafting.typeUnit_bare hinference rfl (hplain.distinctFields type htype)]
  exact (Reading.own_comment _).trans (hinference.own_slotsFragment hdraft _ _ true)

theorem own_argumentsUnit (hfield : field ∈ type.fields) (hdraft : context.draft = .draft7) :
    reading.own context ((Drafting.ofDialect .jsonSchema graph).argumentsUnit type field).2 =
      slotsSchema context graph.enumerations field.slots false := by
  have hinference := Drafting.isPlain_ofDialect .jsonSchema graph
  rw [Drafting.argumentsUnit_bare hinference rfl (hplain.distinctArguments type htype field hfield)]
  exact (Reading.own_comment _).trans (hinference.own_slotsFragment hdraft _ _ false)

end

/-! ### References into the document -/

theorem unnamed_unit (hplain : graph.Plain) (htype : type ∈ graph.types)
    (hunit : unit ∈ (Drafting.ofDialect .jsonSchema graph).typeUnits type) : Unnamed .draft7 (.object unit.2) := by
  have hinference := Drafting.isPlain_ofDialect .jsonSchema graph
  obtain ⟨-, ⟨field, -, rfl⟩ | rfl | ⟨field, hfield, rfl⟩⟩ := Drafting.mem_typeUnits hunit
  · rw [Drafting.inputUnit_bare hinference rfl]
    exact (hinference.unnamed_bareFragment field.position).comment _
  · rw [Drafting.typeUnit_bare hinference rfl (hplain.distinctFields type htype)]
    exact (hinference.unnamed_slotsFragment _ _ _ _).comment _
  · have hd := hplain.distinctArguments type htype field (List.mem_filter.1 hfield).1
    rw [Drafting.argumentsUnit_bare hinference rfl hd]
    exact (hinference.unnamed_slotsFragment _ _ _ _).comment _

theorem unnamed_document (hplain : graph.Plain) : Unnamed .draft7 (documentOf graph.schemaDefinitions) := by
  refine unnamed_documentOf fun definition hdefinition => ?_
  obtain ⟨unit, hunit, rfl⟩ := List.mem_map.1 hdefinition
  obtain ⟨type, htype, hunit⟩ := List.mem_flatMap.1 hunit
  exact unnamed_unit hplain htype hunit

theorem hasTypes_of_closes {reading : Reading} {library : Library} {table : LinkTable} {context : Context}
    (hplain : graph.Plain) (hresource : library.resource? documentAddress =
      some ⟨documentAddress, .draft7, documentOf graph.schemaDefinitions⟩)
    (hcloses : table.Closes reading library []) (hcontext : context.InDocument .draft7) :
    table.HasTypes graph context where
  slots name type schema hfind hinput hlookup := by
    obtain ⟨htype, rfl⟩ := TypeGraph.find?_eq_some_iff.1 hfind
    have hself : (Drafting.ofDialect .jsonSchema graph).typeUnit type ∈ _ :=
      Drafting.typeUnit_mem hplain htype hinput
    obtain ⟨contents, inner, htarget, rfl⟩ := hcloses.read _ _ hlookup
    obtain ⟨rfl, rfl⟩ := Link.target?_eq hresource (hplain.names type htype).1.isPlainName_type
      (unnamed_unit hplain htype hself).id? (get?_schemaDefinitions hplain htype hself rfl) hcontext htarget
    exact own_typeUnit hplain htype hcontext.draft
  known link schema hlookup inner hinner :=
    (hcloses.known link schema hlookup inner hinner).resolve_left (by simp)

/-! ### What is wrong with a value -/

section
variable {reading : Reading} {library : Library} {errors : Json → List ValueFailure}
  (hplain : graph.Plain)
  (hload : Engine.standard.load .draft7 (documentOf graph.schemaDefinitions) = .ok library)
include hplain hload

/-- `Engine.standard` validates by what `Reading.own` makes of the unit in the document. -/
theorem prepare_unit (htype : type ∈ graph.types)
    (hunit : unit ∈ (Drafting.ofDialect .jsonSchema graph).typeUnits type)
    (hname : unit.1 = definitionsPath ++ name) (hplainName : IsPlainName name)
    (hprepare : Engine.standard.prepare .draft7 reading library (definitionsPath ++ name) = .ok errors) :
    ∃ table context start, table.HasTypes graph context ∧ context.draft = .draft7 ∧ start.context ≠ context ∧
      table.lookup start = some (reading.own context unit.2) ∧
      ∀ value, errors value = [] ↔ Schema.failures table (.reference start) value = [] := by
  obtain ⟨table, context, hresource, hcloses, hcontext, hstart, herrors⟩ :=
    Engine.prepare_start hplainName (unnamed_document hplain).leadsHome (unnamed_unit hplain htype hunit).id?
      (get?_schemaDefinitions hplain htype hunit hname) hload hprepare
  refine ⟨table, context, _, hasTypes_of_closes hplain hresource hcloses hcontext, hcontext.draft, ?_, hstart,
    herrors⟩
  rintro rfl
  have hbase : rootAddress = documentAddress := hcontext.base
  exact absurd hbase (by decide)

variable (hclassified : graph.Classified)
include hclassified

theorem prepare_inputUnit_iff (htype : type ∈ graph.types) (hinput : type.kind = .inputObject)
    (hfield : field ∈ type.fields)
    (hunit : (Drafting.ofDialect .jsonSchema graph).inputUnit type field ∈
      (Drafting.ofDialect .jsonSchema graph).typeUnits type)
    (hprepare : Engine.standard.prepare .draft7 reading library
      (definitionsPath ++ unitName type.name (some field.name) none) = .ok errors) :
    errors value = [] ↔ Fits graph true field.position value := by
  have hinference := Drafting.isPlain_ofDialect .jsonSchema graph
  have hgraph := hplain.settlesInputs hclassified
  have hnames := hplain.names type htype
  obtain ⟨table, context, start, htypes, hdraft, hcontext, hstart, herrors⟩ :=
    prepare_unit hplain hload htype hunit rfl (hnames.1.isPlainName_field (hnames.2 field hfield)) hprepare
  have hread : reading.own context ((Drafting.ofDialect .jsonSchema graph).inputUnit type field).2 =
      bareSchema context graph.enumerations field.position := by
    rw [Drafting.inputUnit_bare hinference rfl]
    exact (Reading.own_comment _).trans (hinference.own_bareFragment hdraft field.position)
  have hsettles := (hgraph type htype hinput).2 _ (List.mem_map.2 ⟨field, hfield, rfl⟩)
  rw [herrors, Schema.failures_reference_iff htypes hgraph hsettles hcontext (hread ▸ hstart)]

theorem prepare_slots_iff (htype : type ∈ graph.types)
    (hunit : unit ∈ (Drafting.ofDialect .jsonSchema graph).typeUnits type)
    (hname : unit.1 = definitionsPath ++ name) (hplainName : IsPlainName name)
    {slots : Members Position} {nullable : Bool} (hslots : ∀ slot ∈ slots, graph.Settles slot.2)
    (hread : ∀ context : Context, context.draft = .draft7 →
      reading.own context unit.2 = slotsSchema context graph.enumerations slots nullable)
    (hprepare : Engine.standard.prepare .draft7 reading library (definitionsPath ++ name) = .ok errors) :
    errors value = [] ↔ nullable = true ∧ value = .null ∨
      ∃ members, value = .object members ∧ Fills graph.enumerations (Fits graph true) slots members := by
  obtain ⟨table, context, start, htypes, hdraft, -, hstart, herrors⟩ :=
    prepare_unit hplain hload htype hunit hname hplainName hprepare
  rw [hread context hdraft] at hstart
  rw [herrors, Schema.failures_slots_iff htypes (hplain.settlesInputs hclassified) hslots hstart]

theorem prepare_typeUnit_iff (htype : type ∈ graph.types) (hinput : type.kind = .inputObject)
    (hprepare : Engine.standard.prepare .draft7 reading library
      (definitionsPath ++ unitName type.name none none) = .ok errors) :
    errors value = [] ↔ value = .null ∨ ∃ members, value = .object members ∧
      Fills graph.enumerations (Fits graph true) type.slots members := by
  rw [prepare_slots_iff hplain hload hclassified htype (Drafting.typeUnit_mem hplain htype hinput) rfl
    (hplain.names type htype).1.isPlainName_type (hplain.settlesInputs hclassified type htype hinput).2
    (fun _ => own_typeUnit hplain htype) hprepare]
  simp

theorem prepare_argumentsUnit_iff (htype : type ∈ graph.types) (hfield : field ∈ type.fields)
    (hunit : (Drafting.ofDialect .jsonSchema graph).argumentsUnit type field ∈
      (Drafting.ofDialect .jsonSchema graph).typeUnits type)
    (hprepare : Engine.standard.prepare .draft7 reading library
      (definitionsPath ++ unitName type.name (some field.name) none) = .ok errors) :
    errors value = [] ↔ ∃ members, value = .object members ∧
      Fills graph.enumerations (Fits graph true) field.slots members := by
  have hnames := hplain.names type htype
  rw [prepare_slots_iff hplain hload hclassified htype hunit rfl
    (hnames.1.isPlainName_field (hnames.2 field hfield)) (hplain.settles_slots hclassified htype hfield)
    (fun _ => own_argumentsUnit hplain htype hfield) hprepare]
  simp

theorem prepare_iff_valid (hrefuses : graph.RefusesNullInts) {schema : Json}
    (hdefinition : Members.get? graph.schemaDefinitions name = some schema)
    (hprepare : Engine.standard.prepare .draft7 reading library (definitionsPath ++ name) = .ok errors) :
    errors value = [] ↔ DraftSeven.Valid graph.schemaDefinitions schema value := by
  have hgraph := hplain.settlesInputs hclassified
  have hfills : ∀ {slots : Members Position} {members : Members Json},
      (∀ slot ∈ slots, graph.Settles slot.2 ∧ slot.2.refusesNullInts = true) →
        (Fills graph.enumerations (Fits graph true) slots members ↔
          Fills graph.enumerations (Fits graph false) slots members) := by
    intro slots members hslots
    refine Fills.congr fun slot hslot _ _ => ?_
    exact fits_strict_iff_of_refuses hrefuses hgraph (hslots slot hslot).1 (hslots slot hslot).2
  obtain ⟨type, htype, unit, hunit, hname, rfl⟩ := exists_unit_of_definition hdefinition
  obtain ⟨-, ⟨hinput, field, hfield, rfl⟩ | ⟨hinput, rfl⟩ | ⟨-, field, hfield, rfl⟩⟩ :=
    Drafting.mem_typeUnits_iff.1 hunit
  · have hinput := of_decide_eq_true hinput
    obtain rfl := (String.append_right_inj _).1 hname
    have hfield := (List.mem_filter.1 hfield).1
    have hslot : (field.name, field.position) ∈ type.slots := List.mem_map.2 ⟨field, hfield, rfl⟩
    rw [prepare_inputUnit_iff hplain hload hclassified htype hinput hfield hunit hprepare,
      valid_inputUnit_iff hplain hclassified htype hinput hfield]
    exact fits_strict_iff_of_refuses hrefuses hgraph ((hgraph type htype hinput).2 _ hslot)
      ((hrefuses type htype).1 hinput _ hslot)
  · have hinput := of_decide_eq_true hinput
    obtain rfl := (String.append_right_inj _).1 hname
    rw [prepare_typeUnit_iff hplain hload hclassified htype hinput hprepare,
      valid_typeUnit_iff hplain hclassified htype hinput]
    simp only [hfills fun slot hslot =>
      ⟨(hgraph type htype hinput).2 slot hslot, (hrefuses type htype).1 hinput slot hslot⟩]
  · obtain rfl := (String.append_right_inj _).1 hname
    have hfield := (List.mem_filter.1 hfield).1
    rw [prepare_argumentsUnit_iff hplain hload hclassified htype hfield hunit hprepare,
      valid_argumentsUnit_iff hplain hclassified htype hfield]
    simp only [hfills fun slot hslot =>
      ⟨hplain.settles_slots hclassified htype hfield slot hslot, (hrefuses type htype).2 field hfield slot hslot⟩]

/-- On a graph that `RefusesNullInts` the engine follows the seventh draft, if it can load the document and
prepare its definitions. -/
theorem followsDraftSeven_standard (hrefuses : graph.RefusesNullInts)
    (hadmits : ∀ definition ∈ graph.schemaDefinitions, Draft.draft7.admits definition.2 = true)
    (hprepares : ∀ definition ∈ graph.schemaDefinitions, ∃ errors,
      Engine.standard.prepare .draft7 reading library (definitionsPath ++ definition.1) = .ok errors) :
    Engine.FollowsDraftSeven reading graph.schemaDefinitions where
  admits := hadmits
  prepares := by
    refine ⟨library, hload, fun name schema hdefinition => ?_⟩
    obtain ⟨errors, herrors⟩ := hprepares _ (Members.mem_of_get? hdefinition)
    exact ⟨errors, herrors, fun value =>
      prepare_iff_valid hplain hload hclassified hrefuses hdefinition herrors⟩

end

end ArgGuard
