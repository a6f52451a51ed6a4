import ArgGuard.Proofs.Shape.Traversal

/-!
# How a check comes to its end

`Checks` tells the check of a value by rules: a reference is followed with one step more on the count, or is
at fault, and a value of the right kind is put together from the outcomes of its parts, for which the count
starts afresh. Nothing in the rules says that there is an outcome, since units may refer to one another in a
circle. `checks_iff` says that there is always one, and which: a derivation of it exists by induction on the
size of the value and, for the same value, on the references that may still be followed.

`Leads` counts the references from a shape to another one. A chain of them ends at a shape that is none, at
one whose unit is missing, or goes on, and `check_of_leads`, `failures_of_missing` and
`failures_of_endless` say what becomes of a value in each case.
-/

namespace ArgGuard.Shape

variable {rules : CheckRules} {table : UnitTable} {shape target inner unit last : Shape}
  {value converted part : Json} {hops steps : Nat} {outcome : Checked}

/-! ### Outcomes of values -/

/-- The value as the kind of a shape asks for it. -/
def taken (rules : CheckRules) (shape : Shape) (value : Json) : Option Json :=
  match shape.kind with
  | none => some value
  | some kind => coerce rules.coercing kind value

/-- What stands inside a value under a shape of its own: an item, or a member with a property. -/
inductive PartOf (shape : Shape) : Json → Shape → Json → Prop
  | item {items : List Json} {item : Json} {itemShape : Shape} (hshape : shape.items = some itemShape)
      (hitem : item ∈ items) : PartOf shape (.array items) itemShape item
  | member {members : Members Json} {name : String} {value : Json} {property : Shape}
      (hshape : Members.get? shape.properties name = some property) (hmember : (name, value) ∈ members) :
      PartOf shape (.object members) property value

/-- The outcome of a member; one without a property stays as it is. -/
def memberOutcome (shape : Shape) (outcomes : Shape → Json → Checked) (member : String × Json) :
    String × Checked :=
  (member.1, match Members.get? shape.properties member.1 with
    | some property => outcomes property member.2
    | none => ⟨member.2, []⟩)

/-- The outcome of a value of the right kind, put together from the outcomes of its parts. -/
def compose (shape : Shape) (outcomes : Shape → Json → Checked) : Json → Checked
  | .array items =>
    let own := (allowedCauses shape (.array items) ++ arrayCauses shape items).map CheckFailure.here
    match shape.items with
    | some itemShape =>
      ⟨.array (items.map fun item => (outcomes itemShape item).value),
        own ++ items.zipIdx.flatMap fun (item, index) =>
          (outcomes itemShape item).failures.map (.under (toString index))⟩
    | none => ⟨.array items, own⟩
  | .object members =>
    let own := (allowedCauses shape (.object members) ++ missingCauses shape members).map CheckFailure.here
    let checked := members.map (memberOutcome shape outcomes)
    ⟨.object (Members.mapValues Checked.value checked),
      own ++ propertyFailures shape.properties checked ++ unexpectedFailures shape members⟩
  | value => checkScalar shape value

/-- The check of a value against a shape, after so many references in a row, has an outcome. -/
inductive Checks (rules : CheckRules) : Nat → Shape → Json → Checked → Prop
  | null (hops : Nat) (shape : Shape) : Checks rules hops shape .null (checkNull shape)
  | unresolved {hops : Nat} {shape : Shape} {value : Json} (hv : value ≠ .null)
      (hkind : shape.kind = some .ref) (hmissing : Members.get? rules.table (shape.target.getD "") = none) :
      Checks rules hops shape value ⟨value, [.here (.unresolved (shape.target.getD ""))]⟩
  | tooDeep {hops : Nat} {shape unit : Shape} {value : Json} (hv : value ≠ .null)
      (hkind : shape.kind = some .ref) (hunit : Members.get? rules.table (shape.target.getD "") = some unit)
      (hlimit : referenceLimit ≤ hops) :
      Checks rules hops shape value ⟨value, [.here (.tooDeep (shape.target.getD ""))]⟩
  | follow {hops : Nat} {shape unit : Shape} {value : Json} {outcome : Checked} (hv : value ≠ .null)
      (hkind : shape.kind = some .ref) (hunit : Members.get? rules.table (shape.target.getD "") = some unit)
      (hlimit : hops < referenceLimit) (h : Checks rules (hops + 1) unit value outcome) :
      Checks rules hops shape value outcome
  | wrongKind {hops : Nat} {shape : Shape} {kind : ShapeKind} {value : Json} (hv : value ≠ .null)
      (hkind : shape.kind = some kind) (hdirect : kind ≠ .ref) (htaken : taken rules shape value = none) :
      Checks rules hops shape value ⟨value, [.here (.wrongKind kind value.kind)]⟩
  | content {hops : Nat} {shape : Shape} {value converted : Json} {outcomes : Shape → Json → Checked}
      (hv : value ≠ .null) (hdirect : shape.kind ≠ some .ref)
      (htaken : taken rules shape value = some converted)
      (h : ∀ inner part, PartOf shape converted inner part → Checks rules 0 inner part (outcomes inner part)) :
      Checks rules hops shape value (compose shape outcomes converted)

theorem PartOf.height_lt (h : PartOf shape value inner part) : part.height < value.height := by
  cases h with
  | item _ hitem =>
    rw [Json.height]
    exact Nat.lt_succ_of_le (Json.height_le_itemsHeight hitem)
  | member _ hmember =>
    rw [Json.height]
    exact Nat.lt_succ_of_le (Json.height_le_membersHeight hmember)

theorem compose_congr {outcomes others : Shape → Json → Checked}
    (h : ∀ inner part, PartOf shape value inner part → outcomes inner part = others inner part) :
    compose shape outcomes value = compose shape others value := by
  cases value with
  | null | bool | number | string => rfl
  | array items =>
    rw [compose, compose]
    cases hshape : shape.items with
    | none => rfl
    | some itemShape =>
      have hitems : ∀ item ∈ items, outcomes itemShape item = others itemShape item :=
        fun item hitem => h _ _ (.item hshape hitem)
      dsimp only
      rw [List.map_congr_left fun item hitem => congrArg Checked.value (hitems item hitem),
        List.flatMap_congr fun entry hentry => by rw [hitems entry.1 (List.fst_mem_of_mem_zipIdx hentry)]]
  | object members =>
    rw [compose, compose]
    have hmembers : members.map (memberOutcome shape outcomes) = members.map (memberOutcome shape others) := by
      refine List.map_congr_left fun member hmember => ?_
      unfold memberOutcome
      cases hshape : Members.get? shape.properties member.1 with
      | none => rfl
      | some property => exact congrArg (Prod.mk member.1) (h _ _ (.member hshape hmember))
    rw [hmembers]

theorem height_taken (h : taken rules shape value = some converted) : converted.height ≤ value.height := by
  unfold taken at h
  split at h
  · cases h
    exact Nat.le_refl _
  · rcases coerce_cases h with rfl | ⟨-, hc⟩ | ⟨-, -, n, -, rfl⟩
    · exact Nat.le_refl _
    · rcases convert_cases hc with ⟨-, _, rfl⟩ | ⟨-, _, rfl⟩ | ⟨-, _, rfl⟩ | ⟨-, _, rfl⟩ <;>
        exact value.height_pos
    · exact value.height_pos

theorem targetOf_of_taken (hdirect : shape.kind ≠ some .ref) (h : taken rules shape value = some converted) :
    targetOf rules shape value = .ok (shape, converted) := by
  refine targetOf_eq_ok_iff.2 ⟨resolve_of_kind_ne hdirect _, ?_⟩
  unfold taken at h
  split at h
  · rename_i hkind
    cases h
    exact .inl ⟨hkind, rfl⟩
  · rename_i kind hkind
    exact .inr ⟨kind, hkind, h⟩

theorem exists_kind_of_not_taken (h : taken rules shape value = none) : ∃ kind, shape.kind = some kind := by
  cases hkind : shape.kind with
  | none => simp [taken, hkind] at h
  | some kind => exact ⟨kind, rfl⟩

theorem targetOf_of_wrongKind {kind : ShapeKind} (hkind : shape.kind = some kind) (hdirect : kind ≠ .ref)
    (h : taken rules shape value = none) :
    targetOf rules shape value = .error (.wrongKind kind value.kind) := by
  have hresolve : resolve rules.table referenceLimit shape = .ok shape :=
    resolve_of_kind_ne (fun he => hdirect (Option.some.inj (hkind.symm.trans he))) _
  simp only [taken, hkind] at h
  simp only [targetOf, hresolve, hkind, h]

theorem checkItems_failures (items : List Json) (index : Nat) :
    (checkItems rules shape index items).2 = (items.zipIdx index).flatMap fun entry =>
      (check rules shape entry.1).failures.map (.under (toString entry.2)) := by
  induction items generalizing index with
  | nil => rfl
  | cons item rest ih => rw [checkItems, List.zipIdx_cons, List.flatMap_cons, ← ih]

theorem compose_object (members : Members Json) : compose shape (check rules) (.object members) =
    ⟨.object (members.map fun entry =>
        (entry.1, (checkPart rules (Members.get? shape.properties entry.1) entry.2).value)),
      (allowedCauses shape (.object members) ++ missingCauses shape members).map .here ++
        propertyFailures shape.properties (memberChecks rules shape.properties members) ++
        unexpectedFailures shape members⟩ := by
  have hmembers : members.map (memberOutcome shape (check rules)) =
      memberChecks rules shape.properties members := by
    refine List.map_congr_left fun member _ => ?_
    rw [memberOutcome]
    cases Members.get? shape.properties member.1 <;> rfl
  rw [compose, hmembers]
  simp [memberChecks, Members.mapValues]

theorem check_of_taken (hv : value ≠ .null) (hdirect : shape.kind ≠ some .ref)
    (h : taken rules shape value = some converted) :
    check rules shape value = compose shape (check rules) converted := by
  have htarget := targetOf_of_taken hdirect h
  cases value with
  | null => exact absurd rfl hv
  | bool | number | string =>
    have hscalar := isScalar_targetOf rfl htarget
    rw [check_scalar rfl, withTarget_eq, htarget]
    cases converted <;> first | rfl | cases hscalar
  | array items =>
    obtain rfl := (targetOf_array htarget).2
    rw [check_array htarget, compose]
    cases shape.items with
    | none => simp [itemFailures]
    | some itemShape => simp [itemFailures, checkItems_failures]
  | object members =>
    obtain rfl := (targetOf_object htarget).2
    rw [check_object htarget, compose_object]

/-- The check of a value after so many references in a row. -/
def checkAfter (rules : CheckRules) (hops : Nat) (shape : Shape) (value : Json) : Checked :=
  if value.isNull then checkNull shape
  else
    match resolve rules.table (referenceLimit - hops) shape with
    | .ok target => check rules target value
    | .error cause => ⟨value, [.here cause]⟩

theorem checkAfter_null (hops : Nat) : checkAfter rules hops shape .null = checkNull shape := rfl

theorem checkAfter_of_ok (hv : value ≠ .null)
    (h : resolve rules.table (referenceLimit - hops) shape = .ok target) :
    checkAfter rules hops shape value = check rules target value := by
  have hnull : value.isNull = false := by cases value <;> first | rfl | exact absurd rfl hv
  simp only [checkAfter, hnull, h]
  rfl

theorem checkAfter_of_error {cause : CheckCause} (hv : value ≠ .null)
    (h : resolve rules.table (referenceLimit - hops) shape = .error cause) :
    checkAfter rules hops shape value = ⟨value, [.here cause]⟩ := by
  have hnull : value.isNull = false := by cases value <;> first | rfl | exact absurd rfl hv
  simp only [checkAfter, hnull, h]
  rfl

theorem check_of_resolve (hv : value ≠ .null)
    (h : resolve rules.table referenceLimit shape = .ok target) :
    check rules shape value = check rules target value := by
  refine check_congr_targetOf hv ?_
  rw [targetOf, targetOf, h, resolve_idem h]

theorem check_of_unresolved {cause : CheckCause} (hv : value ≠ .null)
    (h : resolve rules.table referenceLimit shape = .error cause) :
    check rules shape value = ⟨value, [.here cause]⟩ :=
  check_of_error hv (by rw [targetOf, h])

theorem checkAfter_zero (shape : Shape) (value : Json) :
    checkAfter rules 0 shape value = check rules shape value := by
  by_cases hv : value = .null
  · rw [hv, checkAfter_null, check_null]
  · cases h : resolve rules.table referenceLimit shape with
    | ok target => rw [checkAfter_of_ok hv h, check_of_resolve hv h]
    | error cause => rw [checkAfter_of_error hv h, check_of_unresolved hv h]

theorem Checks.eq (h : Checks rules hops shape value outcome) : outcome = checkAfter rules hops shape value := by
  induction h with
  | null hops shape => rfl
  | unresolved hv hkind hmissing => exact (checkAfter_of_error hv (resolve_of_missing hkind hmissing _)).symm
  | tooDeep hv hkind hunit hlimit =>
    refine (checkAfter_of_error hv ?_).symm
    rw [Nat.sub_eq_zero_of_le hlimit, resolve_zero hkind hunit]
  | @follow hops shape unit value outcome hv hkind hunit hlimit _ ih =>
    have hresolve : resolve rules.table (referenceLimit - hops) shape =
        resolve rules.table (referenceLimit - (hops + 1)) unit := by
      rw [← resolve_succ hkind hunit]
      congr 1
      omega
    rw [ih]
    cases h : resolve rules.table (referenceLimit - (hops + 1)) unit with
    | ok target => rw [checkAfter_of_ok hv h, checkAfter_of_ok hv (hresolve.trans h)]
    | error cause => rw [checkAfter_of_error hv h, checkAfter_of_error hv (hresolve.trans h)]
  | wrongKind hv hkind hdirect htaken =>
    rw [checkAfter_of_ok hv (resolve_of_kind_ne (fun he => hdirect (Option.some.inj (hkind.symm.trans he))) _),
      check_of_error hv (targetOf_of_wrongKind hkind hdirect htaken)]
  | content hv hdirect htaken _ ih =>
    rw [checkAfter_of_ok hv (resolve_of_kind_ne hdirect _), check_of_taken hv hdirect htaken]
    exact compose_congr fun inner part hpart => (ih inner part hpart).trans (checkAfter_zero inner part)

theorem exists_checks_of_direct (hops : Nat) (hv : value ≠ .null) (hdirect : shape.kind ≠ some .ref)
    (hparts : ∀ inner part, part.height < value.height → ∃ outcome, Checks rules 0 inner part outcome) :
    ∃ outcome, Checks rules hops shape value outcome := by
  cases htaken : taken rules shape value with
  | none =>
    obtain ⟨kind, hkind⟩ := exists_kind_of_not_taken htaken
    exact ⟨_, .wrongKind hv hkind (fun he => hdirect (he ▸ hkind)) htaken⟩
  | some converted =>
    have hchecks : ∀ inner part, PartOf shape converted inner part →
        Checks rules 0 inner part (checkAfter rules 0 inner part) := by
      intro inner part hpart
      obtain ⟨outcome, houtcome⟩ :=
        hparts inner part (Nat.lt_of_lt_of_le hpart.height_lt (height_taken htaken))
      exact houtcome.eq ▸ houtcome
    exact ⟨_, .content hv hdirect htaken hchecks⟩

/-- By the height of the value, and for one value by the references that may still follow before
`referenceLimit`. -/
theorem exists_checks (rules : CheckRules) (hops : Nat) (shape : Shape) (value : Json) :
    ∃ outcome, Checks rules hops shape value outcome := by
  induction hheight : value.height using Nat.strongRecOn generalizing value shape hops with
  | ind height ih =>
    subst hheight
    have hparts : ∀ inner part, part.height < value.height → ∃ outcome, Checks rules 0 inner part outcome :=
      fun inner part hlower => ih part.height hlower 0 inner part rfl
    by_cases hv : value = .null
    · subst hv
      exact ⟨_, .null hops shape⟩
    induction hleft : referenceLimit - hops generalizing shape hops with
    | zero =>
      by_cases hkind : shape.kind = some .ref
      · cases hunit : Members.get? rules.table (shape.target.getD "") with
        | none => exact ⟨_, .unresolved hv hkind hunit⟩
        | some unit => exact ⟨_, .tooDeep hv hkind hunit (by omega)⟩
      · exact exists_checks_of_direct hops hv hkind hparts
    | succ left ihLeft =>
      by_cases hkind : shape.kind = some .ref
      · cases hunit : Members.get? rules.table (shape.target.getD "") with
        | none => exact ⟨_, .unresolved hv hkind hunit⟩
        | some unit =>
          obtain ⟨outcome, houtcome⟩ := ihLeft (hops + 1) unit (by omega)
          exact ⟨outcome, .follow hv hkind hunit (by omega) houtcome⟩
      · exact exists_checks_of_direct hops hv hkind hparts

theorem checks_iff : Checks rules hops shape value outcome ↔ outcome = checkAfter rules hops shape value := by
  constructor
  · exact Checks.eq
  · rintro rfl
    obtain ⟨outcome, houtcome⟩ := exists_checks rules hops shape value
    exact houtcome.eq ▸ houtcome

/-- `hops` does not matter once a shape is no reference: the parts start anew. -/
theorem checks_iff_of_taken (hv : value ≠ .null) (hdirect : shape.kind ≠ some .ref)
    (htaken : taken rules shape value = some converted) (hops : Nat) :
    Checks rules hops shape value outcome ↔ outcome = compose shape (check rules) converted := by
  rw [checks_iff, checkAfter_of_ok hv (resolve_of_kind_ne hdirect _), check_of_taken hv hdirect htaken]

/-! ### Chains of references -/

/-- So many references lead from a shape to another one. -/
inductive Leads (table : UnitTable) : Nat → Shape → Shape → Prop
  | here (shape : Shape) : Leads table 0 shape shape
  | next {steps : Nat} {shape unit last : Shape} (hkind : shape.kind = some .ref)
      (hunit : Members.get? table (shape.target.getD "") = some unit) (h : Leads table steps unit last) :
      Leads table (steps + 1) shape last

/-- From here no reference leads on: the shape is none, or its unit is missing. -/
def Ends (table : UnitTable) (shape : Shape) : Prop :=
  shape.kind = some .ref → Members.get? table (shape.target.getD "") = none

/-- No chain of references that a check follows from the shape ends. -/
def Endless (table : UnitTable) (shape : Shape) : Prop :=
  ∀ steps last, steps ≤ referenceLimit → Leads table steps shape last → ¬Ends table last

theorem exists_of_not_ends (h : ¬Ends table shape) :
    shape.kind = some .ref ∧ ∃ unit, Members.get? table (shape.target.getD "") = some unit := by
  obtain ⟨hkind, hunit⟩ := Classical.not_imp.1 h
  exact ⟨hkind, Option.ne_none_iff_exists'.1 hunit⟩

theorem Leads.trans {more : Nat} (h : Leads table steps shape inner) (hmore : Leads table more inner last) :
    Leads table (steps + more) shape last := by
  induction h with
  | here => rwa [Nat.zero_add]
  | @next steps shape unit _ hkind hunit _ ih =>
    rw [Nat.add_right_comm]
    exact .next hkind hunit (ih hmore)

/-- `Shape.resolve` comes to the same from anywhere on a chain, with the references that are left. -/
theorem Leads.resolve (h : Leads table steps shape last) (left : Nat) :
    Shape.resolve table (steps + left) shape = Shape.resolve table left last := by
  induction h with
  | here => rw [Nat.zero_add]
  | @next steps shape unit last hkind hunit _ ih =>
    rw [Nat.add_right_comm, resolve_succ hkind hunit, ih]

theorem ends_or_leads (table : UnitTable) (steps : Nat) (shape : Shape) :
    (∃ count last, count ≤ steps ∧ Leads table count shape last ∧ Ends table last) ∨
      ∃ last unit, Leads table steps shape last ∧ last.kind = some .ref ∧
        Members.get? table (last.target.getD "") = some unit := by
  induction steps generalizing shape with
  | zero =>
    by_cases hends : Ends table shape
    · exact .inl ⟨0, shape, Nat.le_refl _, .here shape, hends⟩
    · obtain ⟨hkind, unit, hunit⟩ := exists_of_not_ends hends
      exact .inr ⟨shape, unit, .here shape, hkind, hunit⟩
  | succ steps ih =>
    by_cases hends : Ends table shape
    · exact .inl ⟨0, shape, Nat.zero_le _, .here shape, hends⟩
    · obtain ⟨hkind, unit, hunit⟩ := exists_of_not_ends hends
      rcases ih unit with ⟨count, last, hcount, hleads, hlast⟩ | ⟨last, after, hleads, hlast⟩
      · exact .inl ⟨count + 1, last, Nat.succ_le_succ hcount, .next hkind hunit hleads, hlast⟩
      · exact .inr ⟨last, after, .next hkind hunit hleads, hlast⟩

section
variable (hv : value ≠ .null)
include hv

theorem check_of_leads (h : Leads rules.table steps shape target) (hsteps : steps ≤ referenceLimit)
    (hdirect : target.kind ≠ some .ref) : check rules shape value = check rules target value := by
  refine check_of_resolve hv ?_
  obtain ⟨left, hleft⟩ := Nat.exists_eq_add_of_le hsteps
  rw [hleft, h.resolve, resolve_of_kind_ne hdirect]

theorem failures_of_missing (h : Leads rules.table steps shape last) (hsteps : steps ≤ referenceLimit)
    (hkind : last.kind = some .ref) (hmissing : Members.get? rules.table (last.target.getD "") = none) :
    (check rules shape value).failures = [.here (.unresolved (last.target.getD ""))] := by
  obtain ⟨left, hleft⟩ := Nat.exists_eq_add_of_le hsteps
  have hresolve : resolve rules.table referenceLimit shape = .error (.unresolved (last.target.getD "")) := by
    rw [hleft, h.resolve, resolve_of_missing hkind hmissing]
  rw [check_of_unresolved hv hresolve]

theorem failures_of_endless (h : Endless rules.table shape) :
    ∃ last, Leads rules.table referenceLimit shape last ∧
      (check rules shape value).failures = [.here (.tooDeep (last.target.getD ""))] := by
  obtain ⟨last, unit, hleads, hkind, hunit⟩ := (ends_or_leads rules.table referenceLimit shape).resolve_left
    fun ⟨count, last, hcount, hleads, hends⟩ => h count last hcount hleads hends
  refine ⟨last, hleads, ?_⟩
  have hresolve : resolve rules.table referenceLimit shape = .error (.tooDeep (last.target.getD "")) := by
    rw [← resolve_zero hkind hunit, ← hleads.resolve 0, Nat.add_zero]
  rw [check_of_unresolved hv hresolve]

end

theorem Leads.le_of_ends {count : Nat} (h : Leads table steps shape last) (hlast : Ends table last)
    (hother : Leads table count shape inner) : count ≤ steps := by
  induction h generalizing count with
  | here =>
    cases hother with
    | here => exact Nat.le_refl _
    | next hkind hunit =>
      rw [hlast hkind] at hunit
      cases hunit
  | next hkind hunit _ ih =>
    cases hother with
    | here => exact Nat.zero_le _
    | next _ hotherUnit hother =>
      cases hunit.symm.trans hotherUnit
      exact Nat.succ_le_succ (ih hlast hother)

theorem endless_of_cycle {count : Nat} (h : Leads table steps shape unit)
    (hcycle : Leads table (count + 1) unit unit) : Endless table shape := by
  intro length last _ hlast hends
  have around : ∀ least, ∃ more, least ≤ more ∧ Leads table more unit unit := by
    intro least
    induction least with
    | zero => exact ⟨0, Nat.zero_le _, .here unit⟩
    | succ least ih =>
      obtain ⟨more, hmore, hleads⟩ := ih
      exact ⟨more + (count + 1), by omega, hleads.trans hcycle⟩
  obtain ⟨more, hmore, hleads⟩ := around (length + 1)
  have hlength := hlast.le_of_ends hends (h.trans hleads)
  omega

end ArgGuard.Shape
