import ArgGuard.Proofs.Shape.Parts

/-!
# Checking an accepted value again

A check converts the scalars of a value, and the value that it answers is handed on. `check_value`
says that this value is settled: checked again it is not changed any further, whether it was accepted
or not. Whether it is accepted again is another matter. The bounds of a scalar are compared with the
converted scalar, the length of an array and the names of an object do not change; but whether an
array repeats an item, and whether an array or object is one of the allowed values, is decided before
the parts are converted. `KeepsContents` is what these two would have to say about the converted
value, at every place that the check comes across, and `rechecked` says that an accepted value is
accepted again exactly under this condition. `[1, "1"]` as a list of distinct texts breaks it.
-/

namespace ArgGuard.Shape

variable {rules : CheckRules} {shape target : Shape} {value : Json}

/-- What is wrong with the content of an array or object, apart from its length and its names. -/
def contentCauses (shape : Shape) : Json → List CheckCause
  | .array items =>
    allowedCauses shape (.array items) ++
      causeIf (shape.uniqueItems && hasRepetition items) .repeatedItem
  | .object members => allowedCauses shape (.object members)
  | .null | .bool _ | .number _ | .string _ => []

/-- Wherever the check of a value comes by, nothing is wrong with the content after conversion. -/
def KeepsContents (rules : CheckRules) (shape : Shape) (value : Json) : Prop :=
  ∀ inner part, Visits rules shape value inner part →
    ∀ target, resolve rules.table referenceLimit inner = .ok target →
      contentCauses target (check rules inner part).value = []

/-! ### The converted value is settled -/

theorem checkPart_value_again {part : Option Shape}
    (h : ∀ shape, (check rules shape (check rules shape value).value).value =
      (check rules shape value).value) :
    (checkPart rules part (checkPart rules part value).value).value =
      (checkPart rules part value).value := by
  cases part with
  | none => rfl
  | some shape => exact h shape

theorem check_value_scalar (hv : value.isScalar = true) :
    (check rules shape (check rules shape value).value).value = (check rules shape value).value := by
  cases h : targetOf rules shape value with
  | error cause =>
    have hc := check_of_error (by rintro rfl; cases hv) h
    rw [hc, hc]
  | ok pair =>
    obtain ⟨target, converted⟩ := pair
    have hw := isScalar_targetOf hv h
    rw [check_scalar hv, withTarget_eq, h]
    simp only [checkScalar]
    rw [check_scalar hw, withTarget_eq, targetOf_targetOf h]
    rfl

theorem check_value (rules : CheckRules) (shape : Shape) (value : Json) :
    (check rules shape (check rules shape value).value).value = (check rules shape value).value := by
  induction value using Json.induct generalizing shape with
  | null => rw [check_null]; rfl
  | bool b => exact check_value_scalar rfl
  | number n => exact check_value_scalar rfl
  | string s => exact check_value_scalar rfl
  | array items ih =>
    cases h : targetOf rules shape (.array items) with
    | error cause =>
      have hc := check_of_error (by simp) h
      rw [hc, hc]
    | ok pair =>
      obtain ⟨target, converted⟩ := pair
      obtain rfl := (targetOf_array h).2
      rw [check_array h, check_array (targetOf_array_congr _ h)]
      simp only [List.map_map, Json.array.injEq]
      exact List.map_congr_left fun item hitem => checkPart_value_again fun s => ih item hitem s
  | object members ih =>
    cases h : targetOf rules shape (.object members) with
    | error cause =>
      have hc := check_of_error (by simp) h
      rw [hc, hc]
    | ok pair =>
      obtain ⟨target, converted⟩ := pair
      obtain rfl := (targetOf_object h).2
      rw [check_object h, check_object (targetOf_object_congr _ h)]
      simp only [List.map_map, Json.object.injEq]
      exact List.map_congr_left fun member hmember =>
        Prod.ext rfl (checkPart_value_again fun s => ih member hmember s)

/-! ### What the second check finds -/

theorem keepsContents_array {items : List Json}
    (h : targetOf rules shape (.array items) = .ok (target, .array items)) :
    KeepsContents rules shape (.array items) ↔
      contentCauses target (check rules shape (.array items)).value = [] ∧
        ∀ itemShape, target.items = some itemShape →
          ∀ item ∈ items, KeepsContents rules itemShape item := by
  constructor
  · intro hk
    exact ⟨hk _ _ (.here ..) _ (targetOf_resolve h),
      fun itemShape hs item hitem inner part hv => hk inner part (.item h hs hitem hv)⟩
  · rintro ⟨hown, hitems⟩ inner part hv next hr
    cases hv with
    | here =>
      rw [targetOf_resolve h] at hr
      cases hr; exact hown
    | item htarget hs hitem hv =>
      rw [h] at htarget
      cases htarget; exact hitems _ hs _ hitem inner part hv next hr

theorem keepsContents_object {members : Members Json}
    (h : targetOf rules shape (.object members) = .ok (target, .object members)) :
    KeepsContents rules shape (.object members) ↔
      contentCauses target (check rules shape (.object members)).value = [] ∧
        ∀ name property value, Members.get? target.properties name = some property →
          Members.get? members name = some value → KeepsContents rules property value := by
  constructor
  · intro hk
    exact ⟨hk _ _ (.here ..) _ (targetOf_resolve h),
      fun name property value hp hm inner part hv => hk inner part (.member h hp hm hv)⟩
  · rintro ⟨hown, hmembers⟩ inner part hv next hr
    cases hv with
    | here =>
      rw [targetOf_resolve h] at hr
      cases hr; exact hown
    | member htarget hp hm hv =>
      rw [h] at htarget
      cases htarget; exact hmembers _ _ _ hp hm inner part hv next hr

theorem contentCauses_of_isScalar (hv : value.isScalar = true) : contentCauses shape value = [] := by
  cases value with
  | null | array | object => cases hv
  | bool | number | string => rfl

theorem arrayCauses_map (f : Json → Json) {items : List Json} (h : arrayCauses target items = []) :
    arrayCauses target (items.map f) = [] ↔
      causeIf (target.uniqueItems && hasRepetition (items.map f)) .repeatedItem = [] := by
  simp only [arrayCauses, List.append_eq_nil_iff, List.length_map] at h ⊢
  exact and_iff_right h.1

theorem missingCauses_mapEntries (f : String → Json → Json) (members : Members Json) :
    missingCauses target (members.map fun entry => (entry.1, f entry.1 entry.2)) =
      missingCauses target members := by
  simp only [missingCauses, Members.contains_mapEntries]

theorem unexpectedFailures_mapEntries (f : String → Json → Json) (members : Members Json) :
    unexpectedFailures target (members.map fun entry => (entry.1, f entry.1 entry.2)) =
      unexpectedFailures target members := by
  simp only [unexpectedFailures, Members.names_mapEntries]

/-- Under every shape that accepts the value, it is accepted again if and only if it keeps its
contents. -/
def Rechecked (rules : CheckRules) (value : Json) : Prop :=
  ∀ shape, (check rules shape value).failures = [] →
    ((check rules shape (check rules shape value).value).failures = [] ↔
      KeepsContents rules shape value)

namespace Rechecked

theorem null (rules : CheckRules) : Rechecked rules .null := by
  intro shape h
  refine iff_of_true ?_ fun inner part hv next _ => ?_
  · rwa [check_null] at h ⊢
  · cases hv; rw [check_null]; rfl

theorem scalar (hv : value.isScalar = true) : Rechecked rules value := by
  intro shape h
  obtain ⟨target, converted, ht, hs, ha⟩ := (accepts_scalar_iff hv).1 h
  have hw := isScalar_targetOf hv ht
  have hvalue : (check rules shape value).value = converted := by
    rw [check_scalar hv, withTarget_eq, ht]; rfl
  refine iff_of_true ?_ fun inner part hvisit next _ => ?_
  · rw [hvalue, accepts_scalar_iff hw]
    exact ⟨target, converted, targetOf_targetOf ht, hs, ha⟩
  · cases hvisit with
    | here => rw [hvalue]; exact contentCauses_of_isScalar hw
    | item | member => cases hv

theorem part {part : Option Shape} (hr : Rechecked rules value)
    (h : (checkPart rules part value).failures = []) :
    (checkPart rules part (checkPart rules part value).value).failures = [] ↔
      ∀ shape, part = some shape → KeepsContents rules shape value := by
  cases part with
  | none => simp
  | some shape => simpa using hr shape h

theorem array {items : List Json} (hr : ∀ item ∈ items, Rechecked rules item) :
    Rechecked rules (.array items) := by
  intro shape h
  obtain ⟨target, ht, -, hw, hitems⟩ := accepts_array_iff.1 h
  rw [keepsContents_array ht, check_array ht, accepts_array_iff]
  simp only [contentCauses, List.append_eq_nil_iff]
  constructor
  · rintro ⟨next, hn, ha, hw', hi⟩
    rw [targetOf_array_congr _ ht] at hn
    cases hn
    refine ⟨⟨ha, (arrayCauses_map _ hw).1 hw'⟩, fun itemShape hs item hitem => ?_⟩
    exact ((hr item hitem).part (hitems item hitem)).1 (hi _ (List.mem_map_of_mem hitem)) itemShape hs
  · rintro ⟨⟨ha, hu⟩, hk⟩
    refine ⟨target, targetOf_array_congr _ ht, ha, (arrayCauses_map _ hw).2 hu, fun item hitem => ?_⟩
    obtain ⟨old, hold, rfl⟩ := List.mem_map.1 hitem
    exact ((hr old hold).part (hitems old hold)).2 fun itemShape hs => hk itemShape hs old hold

theorem object {members : Members Json}
    (hr : ∀ name value, Members.get? members name = some value → Rechecked rules value) :
    Rechecked rules (.object members) := by
  intro shape h
  obtain ⟨target, ht, -, hmiss, hunexp, hmembers⟩ := accepts_object_iff.1 h
  rw [keepsContents_object ht, check_object ht, accepts_object_iff]
  simp only [contentCauses]
  have hget : ∀ name, Members.get? (members.map fun entry => (entry.1,
        (checkPart rules (Members.get? target.properties entry.1) entry.2).value)) name =
      (Members.get? members name).map fun value =>
        (checkPart rules (Members.get? target.properties name) value).value :=
    Members.get?_mapEntries fun name value =>
      (checkPart rules (Members.get? target.properties name) value).value
  constructor
  · rintro ⟨next, hn, ha, -, -, hm⟩
    rw [targetOf_object_congr _ ht] at hn
    cases hn
    refine ⟨ha, fun name property value hp hv => ?_⟩
    exact ((hr name value hv).part (hmembers name value hv)).1
      (hm name _ (by rw [hget, hv]; rfl)) property hp
  · rintro ⟨ha, hk⟩
    -- which names there are does not change, so no name is missing or unexpected now
    refine ⟨target, targetOf_object_congr _ ht, ha, ?_, ?_, fun name value hv => ?_⟩
    · rw [missingCauses_mapEntries fun name value =>
        (checkPart rules (Members.get? target.properties name) value).value]
      exact hmiss
    · rw [unexpectedFailures_mapEntries fun name value =>
        (checkPart rules (Members.get? target.properties name) value).value]
      exact hunexp
    · rw [hget, Option.map_eq_some_iff] at hv
      obtain ⟨old, hold, rfl⟩ := hv
      exact ((hr name old hold).part (hmembers name old hold)).2
        fun property hp => hk name property old hp hold

end Rechecked

theorem rechecked (rules : CheckRules) (value : Json) : Rechecked rules value := by
  induction value using Json.induct with
  | null => exact .null rules
  | bool b => exact .scalar rfl
  | number n => exact .scalar rfl
  | string s => exact .scalar rfl
  | array items ih => exact .array ih
  | object members ih => exact .object fun name value hv => ih _ (Members.mem_of_get? hv)

/-! ### Accepted twice -/

/-- The answer to a value is not changed by a second `check`. It is accepted again if and only if the value
`KeepsContents`: nothing is wrong with the contents of the converted arrays and objects. -/
theorem accepted_again_iff {answer : Json} (h : (check rules shape value).result = .ok answer) :
    (check rules shape answer).value = answer ∧
      ((check rules shape answer).result = .ok answer ↔ KeepsContents rules shape value) := by
  obtain ⟨hf, rfl⟩ := result_eq_ok_iff.1 h
  have hv := check_value rules shape value
  refine ⟨hv, ?_⟩
  rw [result_eq_ok_iff, rechecked rules value shape hf]
  exact and_iff_left hv

/-- A list of texts of which none stands twice. -/
def distinctTexts : Shape where
  kind := some .array
  items := some { kind := some .string }
  uniqueItems := true

theorem accepted_again_distinctTexts :
    (check ⟨[], true⟩ distinctTexts (.array [.ofInt 1, .bool true])).result =
        .ok (.array [.string "1", .string "true"]) ∧
      KeepsContents ⟨[], true⟩ distinctTexts (.array [.ofInt 1, .bool true]) ∧
      ¬ KeepsContents ⟨[], true⟩ distinctTexts (.array [.ofInt 1, .string "1"]) := by
  refine ⟨rfl, (accepted_again_iff rfl).2.1 rfl, fun h => ?_⟩
  have hanswer : (check ⟨[], true⟩ distinctTexts (.array [.ofInt 1, .string "1"])).result =
      .ok (.array [.string "1", .string "1"]) := rfl
  cases (accepted_again_iff hanswer).2.2 h

/-- `[1, "1"]` is accepted as a list of distinct texts, and the answer is not. -/
theorem distinctTexts_not_accepted_again :
    (check ⟨[], true⟩ distinctTexts (.array [.ofInt 1, .string "1"])).result =
        .ok (.array [.string "1", .string "1"]) ∧
      (check ⟨[], true⟩ distinctTexts (.array [.string "1", .string "1"])).result =
        .error [.here .repeatedItem] :=
  ⟨rfl, rfl⟩

end ArgGuard.Shape
