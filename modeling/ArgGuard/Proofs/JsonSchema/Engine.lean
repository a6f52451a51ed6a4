import ArgGuard.JsonSchema.Engine
import ArgGuard.Proofs.JsonSchema.Definitions
import ArgGuard.Proofs.JsonSchema.Linking

/-!
# The standard engine

What `Engine.standard` prepares for a definition is the validation of a reference to it. If the address
of the document leads to the document, this reference was linked to what the definition reads to
(`prepare_start`).
-/

namespace ArgGuard.JsonSchema.Engine

variable {draft : Draft} {reading : Reading} {library : Library} {document : Json} {id : String}
  {errors : Json → List ValueFailure}

theorem load_eq_ok_iff :
    standard.load draft document = .ok library ↔ Library.ofDefinitions? draft document = some library := by
  simp only [load]
  cases Library.ofDefinitions? draft document <;> simp

theorem prepare_eq_ok_iff : standard.prepare draft reading library id = .ok errors ↔
    ∃ table, Schema.link reading library (.ofDefinition draft id) = some table ∧
      errors = fun value =>
        (Schema.failures table (.reference (.ofDefinition draft id)) value).map Failure.report := by
  simp only [prepare]
  cases Schema.link reading library (.ofDefinition draft id) <;> simp [eq_comm]

/-- The table that `prepare` links starts with what the definition reads to. -/
theorem prepare_start {definitions : Members Json} {name : String} {members : Members Json}
    (hname : IsPlainName name) (hhome : LeadsHome draft (documentOf definitions))
    (hid : draft.id? members = none) (hdefinition : Members.get? definitions name = some (.object members))
    (hload : standard.load draft (documentOf definitions) = .ok library)
    (hprepare : standard.prepare draft reading library (definitionsPath ++ name) = .ok errors) :
    ∃ table context,
      library.resource? documentAddress = some ⟨documentAddress, draft, documentOf definitions⟩ ∧
      LinkTable.Closes reading library [] table ∧ context.InDocument draft ∧
      table.lookup (.ofDefinition draft (definitionsPath ++ name)) =
        some (reading.target context (.object members)) ∧
      ∀ value, errors value = [] ↔
        Schema.failures table (.reference (.ofDefinition draft (definitionsPath ++ name))) value = [] := by
  obtain ⟨table, htable, rfl⟩ := prepare_eq_ok_iff.1 hprepare
  have hresource := hhome library (load_eq_ok_iff.1 hload)
  obtain ⟨hcloses, hstart⟩ := Schema.link_closes htable
  obtain ⟨schema, hschema⟩ := Option.isSome_iff_exists.1 hstart
  obtain ⟨contents, context, htarget, rfl⟩ := hcloses.read _ _ hschema
  obtain ⟨rfl, hcontext⟩ := Link.target?_ofDefinition hresource hname hid hdefinition htarget
  exact ⟨table, context, hresource, hcloses, hcontext, hschema, fun value => List.map_eq_nil_iff⟩

end ArgGuard.JsonSchema.Engine
