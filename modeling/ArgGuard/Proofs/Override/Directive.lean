import ArgGuard.Override.Directive
import ArgGuard.Proofs.Graph.Classification
import ArgGuard.Proofs.Override.Lookup

/-!
# What a schema declares about itself

`constraintFragment` collects the arguments of all constraints before it makes a fragment of them.
`constraintFragment_eq_foldl` tells it step by step: each constraint lays its arguments over what the
constraints before it have declared. `ofDirectives` writes the outcome at every position of a graph,
and what it wrote at a position is what the directives there declare, since no two positions have the
same coordinate where fields and arguments of one owner differ in their names.
-/

namespace ArgGuard

/-- Whether the fields of each type differ in their names, and so do the arguments of each field. -/
structure TypeGraph.Separates (graph : TypeGraph) : Prop where
  fields : ∀ type ∈ graph.types, (type.fields.map (·.name)).Nodup
  arguments : ∀ type ∈ graph.types, ∀ field ∈ type.fields, (field.arguments.map (·.name)).Nodup

namespace Overrides

variable {type : GraphType} {field : GraphField} {argument : GraphArgument} {graph : TypeGraph}
  {I : Overrides → Prop} {α : Type u}

/-! ### Constraints of one position -/

/-- Lays the arguments of a constraint over what was declared before it. -/
def addDirective (found : Option Fragment) (directive : Directive) : Option Fragment :=
  if directive.name = constraintName then
    some (directive.arguments.foldl (fun fragment (name, value) => Members.set fragment name value)
      (found.getD []))
  else found

theorem foldl_addDirective_some (directives : List Directive) (fragment : Fragment) :
    directives.foldl addDirective (some fragment) =
      some (((directives.filter (·.name = constraintName)).flatMap (·.arguments)).foldl
        (fun fragment (name, value) => Members.set fragment name value) fragment) := by
  induction directives generalizing fragment with
  | nil => rfl
  | cons directive rest ih =>
    rw [List.foldl_cons, addDirective]
    by_cases hname : directive.name = constraintName
    · rw [if_pos hname, ih, List.filter_cons_of_pos (by simpa using hname), List.flatMap_cons,
        List.foldl_append]
      rfl
    · rw [if_neg hname, ih, List.filter_cons_of_neg (by simpa using hname)]

theorem constraintFragment_eq_foldl (directives : List Directive) :
    constraintFragment directives = directives.foldl addDirective none := by
  induction directives with
  | nil => rfl
  | cons directive rest ih =>
    rw [List.foldl_cons, addDirective]
    by_cases hname : directive.name = constraintName
    · rw [if_pos hname, foldl_addDirective_some, constraintFragment,
        List.filter_cons_of_pos (by simpa using hname), List.flatMap_cons, Members.ofList,
        List.foldl_append]
      rfl
    · rw [if_neg hname, ← ih, constraintFragment, constraintFragment,
        List.filter_cons_of_neg (by simpa using hname)]

example : constraintFragment [⟨"constraint", [("minLength", .ofInt 1), ("pattern", .string "a+")]⟩,
    ⟨"deprecated", []⟩, ⟨"constraint", [("minLength", .ofInt 2)]⟩] =
      some [("minLength", .ofInt 2), ("pattern", .string "a+")] := rfl

/-! ### Going through a graph -/

theorem collectInputField_eq (type : GraphType) (found : Overrides) (field : GraphField) :
    collectInputField type found field =
      found.layInputField ⟨type.name, field.name⟩ (constraintFragment field.directives) := by
  unfold collectInputField
  cases constraintFragment field.directives <;> rfl

theorem collectArgument_eq (type : GraphType) (field : GraphField) (found : Overrides)
    (argument : GraphArgument) : collectArgument type field found argument =
      found.layArgument ⟨type.name, field.name, argument.name⟩
        ((constraintFragment argument.directives).map .fragment) := by
  unfold collectArgument
  cases constraintFragment argument.directives <;> rfl

theorem collectType_of_input (found : Overrides) (hkind : type.isInputObject = true) :
    collectType found type = type.fields.foldl (collectInputField type)
      (found.layType type.name (constraintFragment type.directives)) := by
  rw [collectType, if_pos hkind]
  cases constraintFragment type.directives <;> rfl

theorem collectType_of_output (found : Overrides) (hkind : type.isOutputObject = true) :
    collectType found type = type.fields.foldl
      (fun found field => field.arguments.foldl (collectArgument type field) found) found := by
  rw [collectType, if_neg (by simp [GraphType.isInputObject_of_output hkind]), if_pos hkind]

theorem KeptAt.collectType {found : Overrides} (h : KeptAt type I) (hfound : I found) :
    I (collectType found type) := by
  by_cases hinput : type.isInputObject = true
  · rw [collectType_of_input found hinput]
    refine List.foldlRecOn _ _ (h.layType hinput _ _ hfound) fun found hfound field hfield => ?_
    rw [collectInputField_eq]
    exact h.layInputField hinput field hfield _ _ hfound
  · by_cases houtput : type.isOutputObject = true
    · rw [collectType_of_output found houtput]
      refine List.foldlRecOn _ _ hfound fun found hfound field hfield => ?_
      refine List.foldlRecOn _ _ hfound fun found hfound argument hargument => ?_
      rw [collectArgument_eq]
      exact h.layArgument houtput field hfield argument hargument _ _ hfound
    · rw [Overrides.collectType, if_neg hinput, if_neg houtput]
      exact hfound

/-! ### One type -/

theorem type?_collectType (hkind : type.isInputObject = true) (found : Overrides) :
    (collectType found type).type? type.name =
      (constraintFragment type.directives).or (found.type? type.name) := by
  rw [collectType_of_input found hkind, foldl_view (type? · type.name), type?_layType, if_pos rfl]
  intro field _ found
  rw [collectInputField_eq, type?_layInputField]

theorem inputField?_collectType (hkind : type.isInputObject = true)
    (hd : (type.fields.map (·.name)).Nodup) (hfield : field ∈ type.fields) (found : Overrides) :
    (collectType found type).inputField? ⟨type.name, field.name⟩ =
      (constraintFragment field.directives).or (found.inputField? ⟨type.name, field.name⟩) := by
  rw [collectType_of_input found hkind,
    ← inputField?_layType found type.name (constraintFragment type.directives)]
  refine foldl_view_of_mem (inputField? · ⟨type.name, field.name⟩) (·.name) hd hfield
    (fun found => ?_) (fun other _ hne found => ?_) _
  · rw [collectInputField_eq, inputField?_layInputField, if_pos rfl]
  · rw [collectInputField_eq, inputField?_layInputField,
      if_neg fun he => hne (congrArg Coordinate.fieldName he)]

theorem argument?_foldl_collectArgument (hd : (field.arguments.map (·.name)).Nodup)
    (hargument : argument ∈ field.arguments) (found : Overrides) :
    (field.arguments.foldl (collectArgument type field) found).argument?
        ⟨type.name, field.name, argument.name⟩ =
      ((constraintFragment argument.directives).map .fragment).or
        (found.argument? ⟨type.name, field.name, argument.name⟩) := by
  refine foldl_view_of_mem (argument? · ⟨type.name, field.name, argument.name⟩) (·.name) hd hargument
    (fun found => ?_) (fun other _ hne found => ?_) found
  · rw [collectArgument_eq, argument?_layArgument, if_pos rfl]
  · rw [collectArgument_eq, argument?_layArgument,
      if_neg fun he => hne (congrArg ArgumentCoordinate.argumentName he)]

theorem argument?_collectType (hkind : type.isOutputObject = true)
    (hfields : (type.fields.map (·.name)).Nodup) (hfield : field ∈ type.fields)
    (hd : (field.arguments.map (·.name)).Nodup) (hargument : argument ∈ field.arguments)
    (found : Overrides) :
    (collectType found type).argument? ⟨type.name, field.name, argument.name⟩ =
      ((constraintFragment argument.directives).map .fragment).or
        (found.argument? ⟨type.name, field.name, argument.name⟩) := by
  rw [collectType_of_output found hkind]
  refine foldl_view_of_mem (argument? · ⟨type.name, field.name, argument.name⟩) (·.name) hfields hfield
    (argument?_foldl_collectArgument hd hargument) (fun other _ hne => ?_) found
  refine foldl_view (argument? · ⟨type.name, field.name, argument.name⟩) fun argument _ found => ?_
  rw [collectArgument_eq, argument?_layArgument,
    if_neg fun he => hne (congrArg ArgumentCoordinate.fieldName he)]

/-! ### All types -/

/-- What `view` reads at a type was written by `collectType` at this type. -/
theorem view_ofDirectives (view : Overrides → Option α) {declared : Option α}
    (htype : type ∈ graph.types) (hmeta : type.isIntrospection = false)
    (hstep : ∀ found, view (collectType found type) = declared.or (view found))
    (hother : ∀ before after name, AgreeBeside name before after → type.name ≠ name →
      view after = view before) :
    view (ofDirectives graph) = declared.or (view empty) := by
  have hmem : type ∈ graph.types.filter (!·.isIntrospection) :=
    List.mem_filter.2 ⟨htype, by rw [hmeta]; rfl⟩
  refine foldl_view_of_mem view (·.name) (graph.distinct.sublist (List.filter_sublist.map _)) hmem hstep
    (fun other _ hne found => ?_) empty
  exact hother found _ other.name
    ((keptAt_agreeBeside other found).collectType (agreeBeside_refl other.name found)) (Ne.symm hne)

theorem type?_ofDirectives (htype : type ∈ graph.types) (hmeta : type.isIntrospection = false)
    (hkind : type.isInputObject = true) :
    (ofDirectives graph).type? type.name = constraintFragment type.directives := by
  rw [view_ofDirectives (type? · type.name) htype hmeta (type?_collectType hkind)
    fun before after name hagree hname => hagree.type type.name hname]
  exact Option.or_none

theorem inputField?_ofDirectives (hgraph : graph.Separates) (htype : type ∈ graph.types)
    (hmeta : type.isIntrospection = false) (hkind : type.isInputObject = true)
    (hfield : field ∈ type.fields) :
    (ofDirectives graph).inputField? ⟨type.name, field.name⟩ = constraintFragment field.directives := by
  rw [view_ofDirectives (inputField? · ⟨type.name, field.name⟩) htype hmeta
    (inputField?_collectType hkind (hgraph.fields type htype) hfield)
    fun before after name hagree hname => hagree.inputField type.name field.name hname]
  exact Option.or_none

theorem argument?_ofDirectives (hgraph : graph.Separates) (htype : type ∈ graph.types)
    (hmeta : type.isIntrospection = false) (hkind : type.isOutputObject = true)
    (hfield : field ∈ type.fields) (hargument : argument ∈ field.arguments) :
    (ofDirectives graph).argument? ⟨type.name, field.name, argument.name⟩ =
      (constraintFragment argument.directives).map .fragment := by
  rw [view_ofDirectives (argument? · ⟨type.name, field.name, argument.name⟩) htype hmeta
    (argument?_collectType hkind (hgraph.fields type htype) hfield
      (hgraph.arguments type htype field hfield) hargument)
    fun before after name hagree hname => hagree.argument type.name field.name argument.name hname]
  exact Option.or_none

theorem placed_ofDirectives (graph : TypeGraph) : Placed graph (ofDirectives graph) :=
  List.foldlRecOn _ _ (placed_empty graph) fun _ hfound _ htype =>
    (keptAt_placed (List.mem_of_mem_filter htype)).collectType hfound

end Overrides

end ArgGuard
