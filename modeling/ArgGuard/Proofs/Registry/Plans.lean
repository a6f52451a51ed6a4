import ArgGuard.Proofs.Registry.Units
import ArgGuard.Proofs.Schema.Overlay

/-!
# What an object asks for

The properties of an object are collected by a fold over arguments or fields, and every step touches
one name only. So `mem_planArguments` and `mem_inputPlan` say where a property comes from, and where
no name stands twice, `planArguments_asks` and `inputPlan_asks` say that every argument or field with
a shape has its property, and is required if its position refuses `null`.
-/

namespace ArgGuard

namespace ObjectPlan

variable {plan : ObjectPlan} {position : Position} {name : String} {fragment : Fragment}

@[simp] theorem requireIf_properties : (plan.requireIf position name).properties = plan.properties := by
  unfold requireIf
  split <;> rfl

theorem mem_requireIf {other : String} :
    other ∈ (plan.requireIf position name).required ↔
      other ∈ plan.required ∨ position.nonNull = true ∧ other = name := by
  unfold requireIf
  split <;> simp_all

theorem requireIf_required : (plan.requireIf position name).required =
    plan.required ++ if position.nonNull then [name] else [] := by
  unfold requireIf
  split <;> simp

@[simp] theorem addProperty_properties :
    (plan.addProperty position name fragment).properties =
      Members.set plan.properties name fragment := rfl

@[simp] theorem addProperty_required :
    (plan.addProperty position name fragment).required = (plan.requireIf position name).required := rfl

@[simp] theorem addProperty_functions :
    (plan.addProperty position name fragment).functions = plan.functions := by
  unfold addProperty requireIf
  split <;> rfl

/-- A plan that asks for a property, and requires it if its position refuses `null`. -/
structure Asks (plan : ObjectPlan) (position : Position) (name : String) (fragment : Fragment) : Prop where
  property : Members.get? plan.properties name = some fragment
  required : position.nonNull = true → name ∈ plan.required

theorem asks_addProperty : (plan.addProperty position name fragment).Asks position name fragment where
  property := by rw [addProperty_properties, Members.get?_set, if_pos rfl]
  required h := by rw [addProperty_required]; exact mem_requireIf.2 (.inr ⟨h, rfl⟩)

/-- A plan that keeps what another one asks for under other names. -/
structure Touches (plan : ObjectPlan) (name : String) (after : ObjectPlan) : Prop where
  properties : ∀ other, other ≠ name →
    Members.get? after.properties other = Members.get? plan.properties other
  required : ∀ other ∈ plan.required, other ∈ after.required

theorem touches_refl : plan.Touches name plan := ⟨fun _ _ => rfl, fun _ h => h⟩

theorem touches_addProperty : plan.Touches name (plan.addProperty position name fragment) where
  properties other h := by rw [addProperty_properties, Members.get?_set, if_neg (Ne.symm h)]
  required other h := by rw [addProperty_required]; exact mem_requireIf.2 (.inl h)

theorem touches_addFunction (function : ArgumentFunction) :
    plan.Touches name (plan.addFunction function) where
  properties other _ := by simp [addFunction]
  required other h := mem_requireIf.2 (.inl h)

theorem Asks.touches {after : ObjectPlan} {other : String} (h : plan.Asks position name fragment)
    (ht : plan.Touches other after) (hne : name ≠ other) : after.Asks position name fragment :=
  ⟨by rw [ht.properties name hne, h.property], fun hp => ht.required name (h.required hp)⟩

/-- The other steps only touch other names (`Touches`), so what one step asks for is asked for at the end. -/
theorem asks_foldl {α : Type} (step : ObjectPlan → α → ObjectPlan) (nameOf : α → String) {x : α}
    {xs : List α} (htouches : ∀ (plan : ObjectPlan) y, plan.Touches (nameOf y) (step plan y))
    (hd : (xs.map nameOf).Nodup) (hx : x ∈ xs)
    (hasks : ∀ plan : ObjectPlan, (step plan x).Asks position (nameOf x) fragment) (plan : ObjectPlan) :
    (xs.foldl step plan).Asks position (nameOf x) fragment := by
  induction xs generalizing plan with
  | nil => cases hx
  | cons y rest ih =>
    obtain ⟨hnew, hrest⟩ := List.nodup_cons.1 hd
    rcases List.mem_cons.1 hx with rfl | hx
    · refine List.foldlRecOn (motive := fun plan => plan.Asks position (nameOf x) fragment) rest step
        (hasks plan) fun plan hplan z hz => ?_
      refine hplan.touches (htouches plan z) fun he => hnew ?_
      exact he ▸ List.mem_map.2 ⟨z, hz, rfl⟩
    · exact ih hrest hx _

end ObjectPlan

namespace Drafting

variable {drafting : Drafting} {type : GraphType} {field : GraphField} {argument : GraphArgument}
  {plan : ObjectPlan}

/-- An override cannot take the kind `object` from an input object. -/
theorem declares_typeFragment (hdialect : drafting.dialect = .native) :
    Declares (drafting.typeFragment type plan) .object false := by
  unfold typeFragment
  rw [hdialect]
  refine Declares.tag ?_ _
  split
  · exact (Declares.object _ _).merge _ _
  · exact Declares.object _ _

theorem declares_argumentsFragment (hdialect : drafting.dialect = .native) (id : String) :
    Declares (drafting.argumentsFragment id plan) .object false := by
  unfold argumentsFragment
  rw [hdialect]
  exact (Declares.object _ _).tag id

theorem argumentsUnit_eq (hdialect : drafting.dialect = .native) :
    (drafting.argumentsUnit type field).2 = Dialect.native.tag (Dialect.native.object
      (drafting.planArguments type field).properties (drafting.planArguments type field).required)
      (drafting.fieldId type field) := by
  rw [argumentsUnit, argumentsFragment, hdialect]

theorem typeUnit_eq (hdialect : drafting.dialect = .native) (htypes : drafting.overrides.types = []) :
    (drafting.typeUnit type).2 = Dialect.native.tag (Dialect.native.object
      (drafting.inputPlan type).properties (drafting.inputPlan type).required) (drafting.typeId type) := by
  rw [typeUnit, typeFragment, typeId, Overrides.type?, htypes, hdialect]
  rfl

/-! ### Arguments -/

def argumentCoordinate (type : GraphType) (field : GraphField) (argument : GraphArgument) :
    ArgumentCoordinate :=
  ⟨type.name, field.name, argument.name⟩

/-- The fragment laid over that of an argument. -/
def argumentOverride (drafting : Drafting) (coordinate : ArgumentCoordinate) : Option Fragment :=
  match drafting.overrides.argument? coordinate with
  | some (.fragment override) => some override
  | some (.function _) | none => none

def argumentFragment (drafting : Drafting) (type : GraphType) (field : GraphField)
    (argument : GraphArgument) : Fragment :=
  drafting.inference.synthesize argument.position
    (drafting.argumentOverride (argumentCoordinate type field argument))
    (drafting.dialect.referenceId type.name (some field.name) (some argument.name))

def isJudged (drafting : Drafting) (type : GraphType) (field : GraphField) (argument : GraphArgument) :
    Prop :=
  ∃ function, drafting.overrides.argument? (argumentCoordinate type field argument) =
    some (.function function)

theorem planArgument_eq :
    drafting.planArgument type field plan argument =
      match drafting.overrides.argument? (argumentCoordinate type field argument) with
      | some (.function function) =>
        plan.addFunction ⟨⟨argumentCoordinate type field argument, argument.position⟩, function⟩
      | some (.fragment _) =>
        plan.addProperty argument.position argument.name (drafting.argumentFragment type field argument)
      | none =>
        if drafting.dialect.hasShape (drafting.argumentFragment type field argument) then
          plan.addProperty argument.position argument.name
            (drafting.argumentFragment type field argument)
        else plan := by
  unfold planArgument argumentFragment argumentOverride argumentCoordinate
  cases h : drafting.overrides.argument? ⟨type.name, field.name, argument.name⟩ with
  | none => simp only [h]
  | some override => cases override <;> simp only [h]

theorem planArgument_cases (drafting : Drafting) (type : GraphType) (field : GraphField)
    (plan : ObjectPlan) (argument : GraphArgument) :
    (∃ function, drafting.planArgument type field plan argument =
        plan.addFunction ⟨⟨argumentCoordinate type field argument, argument.position⟩, function⟩) ∨
      drafting.planArgument type field plan argument =
        plan.addProperty argument.position argument.name (drafting.argumentFragment type field argument) ∨
      drafting.planArgument type field plan argument = plan := by
  rw [planArgument_eq]
  split
  · exact .inl ⟨_, rfl⟩
  · exact .inr (.inl rfl)
  · split
    · exact .inr (.inl rfl)
    · exact .inr (.inr rfl)

theorem planArgument_shaped (hjudged : ¬drafting.isJudged type field argument)
    (hshape : drafting.dialect.hasShape (drafting.argumentFragment type field argument) = true) :
    drafting.planArgument type field plan argument =
      plan.addProperty argument.position argument.name
        (drafting.argumentFragment type field argument) := by
  rw [planArgument_eq]
  split
  · rename_i function h
    exact absurd ⟨function, h⟩ hjudged
  · rfl
  · rw [if_pos hshape]

theorem touches_planArgument :
    plan.Touches argument.name (drafting.planArgument type field plan argument) := by
  rcases planArgument_cases drafting type field plan argument with ⟨function, h⟩ | h | h <;> rw [h]
  · exact ObjectPlan.touches_addFunction _
  · exact ObjectPlan.touches_addProperty
  · exact ObjectPlan.touches_refl

theorem mem_planArguments {entry : String × Fragment}
    (h : entry ∈ (drafting.planArguments type field).properties) :
    ∃ argument ∈ field.arguments,
      entry = (argument.name, drafting.argumentFragment type field argument) := by
  revert h
  refine List.foldlRecOn (motive := fun plan : ObjectPlan => entry ∈ plan.properties → _) field.arguments _
    (by simp) fun plan ih argument hargument h => ?_
  rcases planArgument_cases drafting type field plan argument with ⟨function, hplan⟩ | hplan | hplan <;>
    rw [hplan] at h
  · exact ih (by simpa [ObjectPlan.addFunction] using h)
  · rcases Members.mem_set h with rfl | h
    · exact ⟨argument, hargument, rfl⟩
    · exact ih h
  · exact ih h

theorem nodup_planArguments : (Members.names (drafting.planArguments type field).properties).Nodup := by
  refine List.foldlRecOn (motive := fun plan : ObjectPlan => (Members.names plan.properties).Nodup)
    field.arguments _ List.nodup_nil fun plan ih argument _ => ?_
  rcases planArgument_cases drafting type field plan argument with ⟨function, h⟩ | h | h <;> rw [h]
  · simpa [ObjectPlan.addFunction] using ih
  · exact Members.nodup_names_set ih _ _
  · exact ih

theorem planArguments_asks (hd : (field.arguments.map (·.name)).Nodup)
    (hargument : argument ∈ field.arguments) (hjudged : ¬drafting.isJudged type field argument)
    (hshape : drafting.dialect.hasShape (drafting.argumentFragment type field argument) = true) :
    (drafting.planArguments type field).Asks argument.position argument.name
      (drafting.argumentFragment type field argument) :=
  ObjectPlan.asks_foldl (drafting.planArgument type field) (·.name)
    (fun _ _ => touches_planArgument) hd hargument
    (fun _ => planArgument_shaped hjudged hshape ▸ ObjectPlan.asks_addProperty) {}

/-! ### Fields of input objects -/

theorem mem_inputPlan {entry : String × Fragment} (h : entry ∈ (drafting.inputPlan type).properties) :
    ∃ field ∈ drafting.shapedFields type, entry = (field.name, drafting.inputFragment type field) := by
  revert h
  refine List.foldlRecOn (motive := fun plan : ObjectPlan => entry ∈ plan.properties → _)
    (drafting.shapedFields type) _ (by simp) fun plan ih field hfield h => ?_
  rcases Members.mem_set h with rfl | h
  · exact ⟨field, hfield, rfl⟩
  · exact ih h

theorem nodup_inputPlan : (Members.names (drafting.inputPlan type).properties).Nodup :=
  List.foldlRecOn (motive := fun plan : ObjectPlan => (Members.names plan.properties).Nodup)
    (drafting.shapedFields type) _ List.nodup_nil fun _ ih _ _ => Members.nodup_names_set ih _ _

theorem inputPlan_asks (hd : ((drafting.shapedFields type).map (·.name)).Nodup)
    (hfield : field ∈ drafting.shapedFields type) :
    (drafting.inputPlan type).Asks field.position field.name (drafting.inputFragment type field) :=
  ObjectPlan.asks_foldl (drafting.planInput type) (·.name)
    (fun _ _ => ObjectPlan.touches_addProperty) hd hfield
    (fun _ => ObjectPlan.asks_addProperty) {}

end Drafting

end ArgGuard
