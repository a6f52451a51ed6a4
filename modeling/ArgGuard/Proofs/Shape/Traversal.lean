import ArgGuard.Backend.Validator
import ArgGuard.Proofs.Json.Structure
import ArgGuard.Proofs.Shape.References

/-!
# Checking in one pass

`check` composes the failures of a value from those of its parts. A checker that goes through a value
once would rather carry along where it stands, what it has found so far and how many references it
has followed in a row, and would put every converted part back into its place. `walk` is this checker.
The steps in and out of the parts have to match on every way through it, also where it turns back
early, and the count of references has to start afresh at every part. `walk_eq` says that they do: a
walk answers what `check` answers and adds its failures behind the earlier ones, each with the place
in front. `context_independent` draws the conclusion that a value is treated at any place as on its
own, and a reference like the unit that it names.
-/

namespace ArgGuard

/-- Where a check stands, the outermost step first, and what it has found so far. -/
structure Progress where
  path : Pointer := []
  found : List ValueFailure := []

namespace Progress

/-- Goes one step further in. -/
def enter (progress : Progress) (step : String) : Progress :=
  { progress with path := progress.path ++ [step] }

/-- Goes one step back. -/
def leave (progress : Progress) : Progress :=
  { progress with path := progress.path.dropLast }

def fail (progress : Progress) (cause : CheckCause) : Progress :=
  { progress with found := progress.found ++ [⟨progress.path, cause.message⟩] }

def failAll (progress : Progress) (causes : List CheckCause) : Progress :=
  causes.foldl fail progress

end Progress

namespace Shape

theorem size_coerce {coercing : Bool} {kind : ShapeKind} {value converted : Json}
    (h : coerce coercing kind value = some converted) : converted.size ≤ value.size := by
  rcases coerce_cases h with rfl | ⟨-, hc⟩ | ⟨-, -, n, -, rfl⟩
  · exact Nat.le_refl _
  · rcases convert_cases hc with ⟨-, _, rfl⟩ | ⟨-, _, rfl⟩ | ⟨-, _, rfl⟩ | ⟨-, _, rfl⟩ <;>
      exact value.size_pos
  · exact value.size_pos

/-- The members that a closed shape does not know. -/
def unexpectedNames (shape : Shape) (members : Members Json) : List String :=
  if shape.closed then
    (Members.names members).filter fun name => !Members.contains shape.properties name
  else []

mutual

/-- Checks a value at the place where the check stands, after so many references in a row. -/
def walk (rules : CheckRules) (shape : Shape) (value : Json) (hops : Nat) (progress : Progress) :
    Json × Progress :=
  if value.isNull then
    (value, if !shape.nullable && shape.kind.isSome then progress.fail .isNull else progress)
  else if shape.kind = some .ref then
    let target := shape.target.getD ""
    match Members.get? rules.table target with
    | some next =>
      if hops < referenceLimit then walk rules next value (hops + 1) progress
      else (value, progress.fail (.tooDeep target))
    | none => (value, progress.fail (.unresolved target))
  else
    match shape.kind with
    | none => walkContent rules shape value progress
    | some kind =>
      match _hc : coerce rules.coercing kind value with
      | some converted => walkContent rules shape converted progress
      | none => (value, progress.fail (.wrongKind kind value.kind))
termination_by (value.size, 1 + (referenceLimit - hops), 0)
decreasing_by
  · exact .right _ (.left _ _ (by omega))
  · exact .right _ (.left _ _ (by omega))
  · rcases Nat.lt_or_eq_of_le (size_coerce _hc) with h | h
    · exact .left _ _ h
    · rw [h]; exact .right _ (.left _ _ (by omega))

/-- Checks a value that has the right kind. -/
def walkContent (rules : CheckRules) (shape : Shape) (value : Json) (progress : Progress) :
    Json × Progress :=
  let progress := progress.failAll (scalarCauses shape value ++ allowedCauses shape value)
  match value with
  | .array items =>
    let progress := progress.failAll (arrayCauses shape items)
    match shape.items with
    | some itemShape =>
      let (items, progress) := walkItems rules itemShape 0 items progress
      (.array items, progress)
    | none => (.array items, progress)
  | .object members =>
    let progress := progress.failAll (missingCauses shape members)
    let (fields, progress) :=
      walkProperties rules shape.properties (Members.names shape.properties) members members progress
    (.object fields, (unexpectedNames shape members).foldl
      (fun progress name => ((progress.enter name).fail .unexpectedProperty).leave) progress)
  | value => (value, progress)
termination_by (value.size, 0, 0)
decreasing_by
  · exact .left _ _ (by simp [Json.size])
  · exact .left _ _ (by simp [Json.size])

/-- Checks items that stand from an index on. -/
def walkItems (rules : CheckRules) (shape : Shape) (index : Nat) (items : List Json)
    (progress : Progress) : List Json × Progress :=
  match items with
  | [] => ([], progress)
  | item :: rest =>
    let (converted, progress) := walk rules shape item 0 (progress.enter (toString index))
    let (others, progress) := walkItems rules shape (index + 1) rest progress.leave
    (converted :: others, progress)
termination_by (Json.itemsSize items, 2 + referenceLimit, 0)
decreasing_by
  · rw [Json.itemsSize]
    rcases Nat.eq_zero_or_pos (Json.itemsSize rest) with h | h
    · rw [h]; exact .right _ (.left _ _ (by omega))
    · exact .left _ _ (by omega)
  · have := item.size_pos
    exact .left _ _ (by rw [Json.itemsSize]; omega)

/-- Checks the members that have a property, in the order of the properties, and puts every one back
into its place. -/
def walkProperties (rules : CheckRules) (properties : Members Shape) (names : List String)
    (members fields : Members Json) (progress : Progress) : Members Json × Progress :=
  match names with
  | [] => (fields, progress)
  | name :: rest =>
    match _hm : Members.get? members name, Members.get? properties name with
    | some value, some property =>
      let (converted, progress) := walk rules property value 0 (progress.enter name)
      walkProperties rules properties rest members (Members.set fields name converted) progress.leave
    | _, _ => walkProperties rules properties rest members fields progress
termination_by (Json.membersSize members, 2 + referenceLimit, names.length)
decreasing_by
  · rcases Nat.lt_or_eq_of_le (Json.size_le_membersSize _hm) with h | h
    · exact .left _ _ h
    · rw [h]; exact .right _ (.left _ _ (by omega))
  · exact .right _ (.right _ (by simp))
  · exact .right _ (.right _ (by simp))

end


end Shape

/-! ### What progress keeps -/

/-- The failure seen from further out. -/
def ValueFailure.below (path : Pointer) (failure : ValueFailure) : ValueFailure :=
  { failure with path := path ++ failure.path }

namespace Progress

variable {progress : Progress}

/-- Adds failures of the value at which the check stands. -/
def report (progress : Progress) (failures : List CheckFailure) : Progress :=
  { progress with
    found := progress.found ++ failures.map fun failure => failure.report.below progress.path }

/-- The answer of a check, and the progress with its failures added. -/
def after (progress : Progress) (checked : Checked) : Json × Progress :=
  (checked.value, progress.report checked.failures)

theorem report_nil : progress.report [] = progress := by simp [report]

theorem report_report (failures others : List CheckFailure) :
    (progress.report failures).report others = progress.report (failures ++ others) := by
  simp [report]

theorem fail_eq (cause : CheckCause) : progress.fail cause = progress.report [.here cause] := by
  simp [fail, report, CheckFailure.here, CheckFailure.report, ValueFailure.below]

theorem failAll_eq (causes : List CheckCause) :
    progress.failAll causes = progress.report (causes.map .here) := by
  induction causes generalizing progress with
  | nil => exact report_nil.symm
  | cons cause rest ih =>
    calc
      progress.failAll (cause :: rest) = (progress.fail cause).failAll rest := rfl
      _ = (progress.report [.here cause]).report (rest.map .here) := by rw [ih, fail_eq]
      _ = progress.report ((cause :: rest).map .here) := report_report _ _

/-- `enter` and `leave` cancel, and what is reported between them lies `under` the step. -/
theorem leave_report_enter (step : String) (failures : List CheckFailure) :
    ((progress.enter step).report failures).leave =
      progress.report (failures.map (.under step)) := by
  simp [enter, leave, report, CheckFailure.under, CheckFailure.report, ValueFailure.below]

end Progress

namespace Shape

variable {rules : CheckRules} {shape target unit : Shape} {value converted : Json}
  {progress : Progress}

theorem unexpectedFailures_eq (shape : Shape) (members : Members Json) :
    unexpectedFailures shape members =
      (unexpectedNames shape members).map fun name => ⟨[name], .unexpectedProperty⟩ := by
  unfold unexpectedFailures unexpectedNames
  split <;> rfl

theorem foldl_unexpected (names : List String) :
    names.foldl (fun progress name => ((progress.enter name).fail .unexpectedProperty).leave) progress =
      progress.report (names.map fun name => ⟨[name], .unexpectedProperty⟩) := by
  induction names generalizing progress with
  | nil => exact Progress.report_nil.symm
  | cons name rest ih =>
    rw [List.foldl_cons, ih, Progress.fail_eq, Progress.leave_report_enter, Progress.report_report]
    rfl

/-! ### References -/

/-- What a shape stands for and the value as one of its kind, where only so many references may
follow one another. -/
def targetWithin (rules : CheckRules) (hops : Nat) (shape : Shape) (value : Json) :
    Except CheckCause (Shape × Json) :=
  match resolve rules.table hops shape with
  | .error cause => .error cause
  | .ok target => targetOf rules target value

theorem resolve_idem {table : UnitTable} {hops : Nat}
    (h : resolve table hops shape = .ok target) (more : Nat) :
    resolve table more target = .ok target := by
  refine resolve_of_kind_ne ?_ more
  induction hops generalizing shape with
  | zero =>
    by_cases hk : shape.kind = some .ref
    · cases hn : Members.get? table (shape.target.getD "") with
      | none => rw [resolve_of_missing hk hn] at h; cases h
      | some next => rw [resolve_zero hk hn] at h; cases h
    · rw [resolve_of_kind_ne hk] at h
      cases h; exact hk
  | succ hops ih =>
    by_cases hk : shape.kind = some .ref
    · cases hn : Members.get? table (shape.target.getD "") with
      | none => rw [resolve_of_missing hk hn] at h; cases h
      | some next => rw [resolve_succ hk hn] at h; exact ih h
    · rw [resolve_of_kind_ne hk] at h
      cases h; exact hk

theorem targetWithin_referenceLimit :
    targetWithin rules referenceLimit shape value = targetOf rules shape value := by
  unfold targetWithin
  cases hr : resolve rules.table referenceLimit shape with
  | error cause => simp only [targetOf, hr]
  | ok target => simp only [targetOf, hr, resolve_idem hr]

/-- The rest of a walk, when it is known what the shape stands for. -/
def proceed (rules : CheckRules) (value : Json) (progress : Progress) :
    Except CheckCause (Shape × Json) → Json × Progress
  | .error cause => (value, progress.fail cause)
  | .ok (target, converted) => walkContent rules target converted progress

theorem walk_of_kind_ne (hv : value ≠ .null) (hk : shape.kind ≠ some .ref) (hops : Nat) :
    walk rules shape value hops progress = proceed rules value progress (targetOf rules shape value) := by
  have hnull : value.isNull = false := by cases value <;> first | rfl | exact absurd rfl hv
  rw [walk, if_neg (by simp [hnull]), if_neg hk]
  simp only [targetOf, resolve_of_kind_ne hk]
  cases shape.kind with
  | none => rfl
  | some kind =>
    dsimp only
    split <;> rename_i hc <;> rw [hc] <;> rfl

/-- `walk` counts references up to `referenceLimit` where `resolve` counts down. -/
theorem walk_eq_proceed (hv : value ≠ .null) {hops left : Nat} (hleft : hops + left = referenceLimit) :
    walk rules shape value hops progress =
      proceed rules value progress (targetWithin rules left shape value) := by
  have hnull : value.isNull = false := by cases value <;> first | rfl | exact absurd rfl hv
  by_cases hk : shape.kind = some .ref
  · induction left generalizing hops shape with
    | zero =>
      rw [walk, if_neg (by simp [hnull]), if_pos hk]
      cases hn : Members.get? rules.table (shape.target.getD "") with
      | none => simp only [hn, targetWithin, resolve_of_missing hk hn, proceed]
      | some next =>
        simp only [hn, targetWithin, resolve_zero hk hn, proceed]
        rw [if_neg (by omega)]
    | succ left ih =>
      rw [walk, if_neg (by simp [hnull]), if_pos hk]
      cases hn : Members.get? rules.table (shape.target.getD "") with
      | none => simp only [hn, targetWithin, resolve_of_missing hk hn, proceed]
      | some next =>
        simp only [hn, targetWithin, resolve_succ hk hn]
        rw [if_pos (by omega)]
        by_cases hnext : next.kind = some .ref
        · exact ih (by omega) hnext
        · rw [resolve_of_kind_ne hnext]
          exact walk_of_kind_ne hv hnext _
  · rw [targetWithin, resolve_of_kind_ne hk]
    exact walk_of_kind_ne hv hk _

theorem walk_of_ne_null (hv : value ≠ .null) :
    walk rules shape value 0 progress = proceed rules value progress (targetOf rules shape value) := by
  rw [walk_eq_proceed hv (Nat.zero_add _), targetWithin_referenceLimit]

theorem check_congr_targetOf (hv : value ≠ .null)
    (h : targetOf rules shape value = targetOf rules unit value) :
    check rules shape value = check rules unit value := by
  cases value with
  | null => exact absurd rfl hv
  | bool | number | string | array | object =>
    rw [check, check, withTarget_eq, withTarget_eq, h]

theorem targetOf_reference {id : String} (hk : shape.kind = some .ref) (hid : shape.target = some id)
    (hunit : Members.get? rules.table id = some unit) (hdirect : unit.kind ≠ some .ref) :
    targetOf rules shape value = targetOf rules unit value := by
  have hn : Members.get? rules.table (shape.target.getD "") = some unit := by rw [hid]; exact hunit
  rw [targetOf, targetOf, resolve_of_kind_ne hdirect, referenceLimit, resolve_succ hk hn,
    resolve_of_kind_ne hdirect]

/-! ### The walk and the check -/

theorem walk_scalar (hs : value.isScalar = true) :
    walk rules shape value 0 progress = progress.after (check rules shape value) := by
  rw [walk_of_ne_null (by rintro rfl; cases hs), check_scalar hs, withTarget_eq]
  cases ht : targetOf rules shape value with
  | error cause => simp only [proceed, Progress.after, Progress.fail_eq]
  | ok pair =>
    obtain ⟨target, converted⟩ := pair
    have hconverted := isScalar_targetOf hs ht
    simp only [proceed, Progress.after, checkScalar]
    cases converted with
    | null | array | object => cases hconverted
    | bool | number | string => rw [walkContent, Progress.failAll_eq] <;> simp

theorem walkItems_eq {items : List Json} {index : Nat}
    (ih : ∀ item ∈ items, ∀ progress, walk rules shape item 0 progress =
      progress.after (check rules shape item)) :
    walkItems rules shape index items progress =
      ((checkItems rules shape index items).1,
        progress.report (checkItems rules shape index items).2) := by
  induction items generalizing index progress with
  | nil => rw [walkItems, checkItems, Progress.report_nil]
  | cons item rest ihRest =>
    rw [walkItems, checkItems, ih item List.mem_cons_self]
    simp only [Progress.after, Progress.leave_report_enter]
    rw [ihRest fun other ho => ih other (List.mem_cons_of_mem _ ho), Progress.report_report]

/-- Members of which those of some names were checked. -/
def checkedAmong (rules : CheckRules) (properties : Members Shape) (members : Members Json)
    (names : List String) : Members Json :=
  members.map fun entry => (entry.1, if entry.1 ∈ names then
    (checkPart rules (Members.get? properties entry.1) entry.2).value else entry.2)

section
variable {properties : Members Shape} {members : Members Json} {names : List String} {name : String}

theorem checkedAmong_concat_of_absent (names : List String)
    (h : ∀ entry ∈ members, entry.1 = name → Members.get? properties name = none) :
    checkedAmong rules properties members (names ++ [name]) =
      checkedAmong rules properties members names := by
  refine List.map_congr_left fun entry hentry => Prod.ext rfl ?_
  by_cases hn : entry.1 = name
  · simp [hn, h entry hentry hn]
  · simp [hn]

theorem checkedAmong_concat (rules : CheckRules) (properties : Members Shape) (names : List String)
    (hd : (Members.names members).Nodup) (hm : Members.get? members name = some value) :
    checkedAmong rules properties members (names ++ [name]) =
      Members.set (checkedAmong rules properties members names) name
        (checkPart rules (Members.get? properties name) value).value := by
  have hnames : Members.names (checkedAmong rules properties members names) = Members.names members :=
    Members.names_mapEntries fun name value => if name ∈ names then
      (checkPart rules (Members.get? properties name) value).value else value
  have hcontains : Members.contains (checkedAmong rules properties members names) name = true := by
    rw [← Members.mem_names_iff, hnames, Members.mem_names_iff]
    exact Members.contains_iff.2 ⟨value, hm⟩
  rw [Members.set_eq_map (hnames ▸ hd) hcontains, checkedAmong, checkedAmong, List.map_map]
  refine List.map_congr_left fun entry hentry => Prod.ext rfl ?_
  by_cases hn : entry.1 = name
  · have hvalue : Members.get? members entry.1 = some entry.2 := Members.get?_of_mem hd hentry
    rw [hn, hm] at hvalue
    cases hvalue
    simp [hn]
  · simp [hn]

theorem walkProperties_eq (properties : Members Shape) (names rest : List String) (progress : Progress)
    (hd : (Members.names members).Nodup)
    (ih : ∀ member ∈ members, ∀ shape progress, walk rules shape member.2 0 progress =
      progress.after (check rules shape member.2)) :
    walkProperties rules properties rest members (checkedAmong rules properties members names) progress =
      (checkedAmong rules properties members (names ++ rest),
        progress.report (rest.flatMap fun name =>
          match Members.get? members name, Members.get? properties name with
          | some value, some property => (check rules property value).failures.map (.under name)
          | _, _ => [])) := by
  induction rest generalizing names progress with
  | nil => rw [walkProperties, List.append_nil, List.flatMap_nil, Progress.report_nil]
  | cons name rest ihRest =>
    rw [walkProperties, List.flatMap_cons, List.append_cons]
    split
    · rename_i value property hvalue hproperty
      rw [ih _ (Members.mem_of_get? hvalue)]
      simp only [Progress.after, Progress.leave_report_enter, hvalue, hproperty]
      have hset := checkedAmong_concat rules properties names hd hvalue
      rw [hproperty, checkPart_some] at hset
      rw [← hset, ihRest, Progress.report_report]
    · rename_i hnone
      have habsent : ∀ entry ∈ members, entry.1 = name → Members.get? properties name = none := by
        rintro entry hentry rfl
        obtain ⟨value, hvalue⟩ := Members.contains_iff.1 (Members.contains_of_mem hentry)
        cases hproperty : Members.get? properties entry.1 with
        | none => rfl
        | some property => exact absurd hproperty (hnone value property hvalue)
      rw [← checkedAmong_concat_of_absent names habsent, ihRest]
      cases hvalue : Members.get? members name with
      | none => simp
      | some value =>
        cases hproperty : Members.get? properties name with
        | none => simp
        | some property => exact absurd hproperty (hnone value property hvalue)

theorem checkedAmong_names :
    checkedAmong rules properties members (Members.names properties) =
      members.map fun entry =>
        (entry.1, (checkPart rules (Members.get? properties entry.1) entry.2).value) := by
  refine List.map_congr_left fun entry _ => Prod.ext rfl ?_
  by_cases hn : entry.1 ∈ Members.names properties
  · rw [if_pos hn]
  · rw [if_neg hn]
    cases hp : Members.get? properties entry.1 with
    | none => rfl
    | some property =>
      exact absurd (Members.mem_names_iff.2 (Members.contains_iff.2 ⟨property, hp⟩)) hn

theorem propertyFailures_memberChecks :
    propertyFailures properties (memberChecks rules properties members) =
      (Members.names properties).flatMap fun name =>
        match Members.get? members name, Members.get? properties name with
        | some value, some property => (check rules property value).failures.map (.under name)
        | _, _ => [] := by
  rw [propertyFailures, Members.names, List.flatMap_map]
  refine List.flatMap_congr fun entry hentry => ?_
  obtain ⟨property, hproperty⟩ := Members.contains_iff.1 (Members.contains_of_mem hentry)
  simp only [get?_memberChecks, hproperty]
  cases Members.get? members entry.1 <;> rfl

end

/-- `walk` answers what `check` answers, and adds the failures of the check to those before. -/
theorem walk_eq (hd : value.hasDistinctNames = true) (shape : Shape) (progress : Progress) :
    walk rules shape value 0 progress = progress.after (check rules shape value) := by
  induction value using Json.induct generalizing shape progress with
  | null =>
    rw [walk, check_null, Progress.after, checkNull]
    by_cases hn : (!shape.nullable && shape.kind.isSome) = true
    · simp [hn, Json.isNull, causeIf, Progress.fail_eq]
    · simp [hn, Json.isNull, causeIf, Progress.report_nil]
  | bool b => exact walk_scalar rfl
  | number n => exact walk_scalar rfl
  | string s => exact walk_scalar rfl
  | array items ih =>
    rw [walk_of_ne_null (by simp)]
    cases ht : targetOf rules shape (.array items) with
    | error cause => rw [proceed, Progress.fail_eq, check_of_error (by simp) ht]; rfl
    | ok pair =>
      obtain ⟨target, converted⟩ := pair
      obtain rfl := (targetOf_array ht).2
      have ihItem : ∀ item ∈ items, ∀ itemShape progress, walk rules itemShape item 0 progress =
          progress.after (check rules itemShape item) := fun item hitem itemShape progress =>
        ih item hitem (Json.hasDistinctNames_array.1 hd item hitem) itemShape progress
      rw [proceed, walkContent, check_array ht, Progress.after]
      simp only [scalarCauses, List.nil_append, Progress.failAll_eq, Progress.report_report,
        ← List.map_append]
      cases hi : target.items with
      | none => simp [itemFailures]
      | some itemShape =>
        simp only [itemFailures, checkPart_some]
        rw [walkItems_eq fun item hitem => ihItem item hitem itemShape, checkItems_value,
          Progress.report_report]
  | object members ih =>
    rw [walk_of_ne_null (by simp)]
    cases ht : targetOf rules shape (.object members) with
    | error cause => rw [proceed, Progress.fail_eq, check_of_error (by simp) ht]; rfl
    | ok pair =>
      obtain ⟨target, converted⟩ := pair
      obtain rfl := (targetOf_object ht).2
      obtain ⟨hnames, hmembers⟩ := Json.hasDistinctNames_object.1 hd
      have ihMember : ∀ member ∈ members, ∀ shape progress, walk rules shape member.2 0 progress =
          progress.after (check rules shape member.2) := fun member hmember shape progress =>
        ih member hmember (hmembers member hmember) shape progress
      have hstart : checkedAmong rules target.properties members [] = members := by
        simp [checkedAmong]
      have hwalk := walkProperties_eq target.properties [] (Members.names target.properties)
        (progress.report
          ((allowedCauses target (.object members) ++ missingCauses target members).map .here))
        hnames ihMember
      rw [hstart, List.nil_append, checkedAmong_names, ← propertyFailures_memberChecks] at hwalk
      rw [proceed, walkContent, check_object ht, Progress.after]
      simp only [scalarCauses, List.nil_append, Progress.failAll_eq, Progress.report_report,
        ← List.map_append]
      rw [hwalk]
      simp only [foldl_unexpected, Progress.report_report, unexpectedFailures_eq]

/-- Walked at any place and after any failures, a value is answered and faulted as by `check`: earlier
failures stay, its own follow in their order, each with the place in front. And a reference to a unit that
is none itself is checked as this unit. -/
theorem context_independent (rules : CheckRules) (shape : Shape) (value : Json)
    (hdistinct : value.hasDistinctNames = true) (progress : Progress) :
    walk rules shape value 0 {} =
        ((check rules shape value).value, ⟨[], (check rules shape value).failures.map CheckFailure.report⟩) ∧
      walk rules shape value 0 progress =
        ((walk rules shape value 0 {}).1, ⟨progress.path,
          progress.found ++ (walk rules shape value 0 {}).2.found.map (.below progress.path)⟩) ∧
      (∀ failure : ValueFailure, (failure.below progress.path).path.text =
        Pointer.text progress.path ++ failure.path.text) ∧
      ∀ id unit, shape.kind = some .ref → shape.target = some id →
        Members.get? rules.table id = some unit → unit.kind ≠ some .ref → value ≠ .null →
          (check rules shape value).result.mapError (·.map CheckFailure.report) =
            (Validator.native id rules).validate value := by
  have hown : walk rules shape value 0 {} =
      ((check rules shape value).value, ⟨[], (check rules shape value).failures.map CheckFailure.report⟩) := by
    rw [walk_eq hdistinct]
    simp [Progress.after, Progress.report, ValueFailure.below]
  refine ⟨hown, ?_, fun failure => ?_, fun id unit hk hid hunit hdirect hv => ?_⟩
  · rw [hown, walk_eq hdistinct]
    simp [Progress.after, Progress.report, Function.comp_def]
  · simp [ValueFailure.below, Pointer.text]
  · rw [check_congr_targetOf hv (targetOf_reference hk hid hunit hdirect)]
    simp only [Validator.validate, Validator.checkUnit, hunit]
    cases (check rules unit value).result <;> rfl

/-- Rules by which filters have a number under a name with a slash in it. -/
def limitRules : CheckRules where
  table := [("Filters", { kind := some .object, properties := [("a/b", { kind := some .integer })] })]
  coercing := true

/-- A check that stands at the first of several filters and has already found something. -/
def amongFilters : Progress := ⟨["filters", "0"], [⟨["order"], "must not be null"⟩]⟩

theorem context_independent_filters :
    (walk limitRules { kind := some .ref, target := some "Filters" }
        (.object [("a/b", .string "x")]) 0 amongFilters).2 =
      ⟨["filters", "0"], [⟨["order"], "must not be null"⟩,
        ⟨["filters", "0", "a/b"], "expected integer, found string"⟩]⟩ ∧
      (Validator.native "Filters" limitRules).validate (.object [("a/b", .string "x")]) =
        .error [⟨["a/b"], "expected integer, found string"⟩] := by
  obtain ⟨hown, hcontext, -, hreference⟩ := context_independent limitRules
    { kind := some .ref, target := some "Filters" } (.object [("a/b", .string "x")]) (by decide)
    amongFilters
  have hfound : (check limitRules { kind := some .ref, target := some "Filters" }
      (.object [("a/b", .string "x")])).failures.map CheckFailure.report =
        [⟨["a/b"], "expected integer, found string"⟩] := by
    decide +kernel
  refine ⟨?_, ?_⟩
  · rw [hcontext, hown]
    simp only [hfound]
    rfl
  · rw [← hreference "Filters" _ rfl rfl rfl (by simp) (by simp), Checked.result, if_neg]
    · exact congrArg Except.error hfound
    · intro hempty
      rw [List.isEmpty_iff.1 hempty] at hfound
      cases hfound

end Shape

end ArgGuard
