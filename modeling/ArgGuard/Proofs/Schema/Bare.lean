import ArgGuard.Schema.Synthesis

/-!
# Fragments without overrides

Without an override the fragment of a position follows from the position alone, in either dialect:
`bareFragment`, with the name of the unit as its tag (`synthesize_none`).
-/

namespace ArgGuard

namespace Inference

/-- Inference in a dialect that no hook has a part in. -/
structure IsPlain (inference : Inference) (dialect : Dialect) : Prop where
  dialect : inference.dialect = dialect
  hook : inference.hook = none

/-- The fragment of a position without an override. -/
def bareFragment (inference : Inference) : Position → Fragment
  | .named name leaf nonNull =>
    if leaf = .inputObject then
      inference.dialect.reference (inference.dialect.referenceId name none none) (!nonNull)
    else inference.infer name nonNull
  | .list item nonNull => inference.dialect.array (inference.bareFragment item) (!nonNull)

/-- The fragments of slots, each under a name of its own. -/
def slotProperties (inference : Inference) (idOf : String → String) (slots : Members Position) :
    Members Fragment :=
  slots.map fun slot => (slot.1, inference.dialect.tag (inference.bareFragment slot.2) (idOf slot.1))

variable {inference : Inference} {position : Position}

theorem compositeFragment_eq (hleaf : position.leaf = .inputObject) :
    compositeFragment inference.dialect position = inference.bareFragment position := by
  induction position with
  | named name leaf nonNull =>
    obtain rfl : leaf = .inputObject := hleaf
    rfl
  | list item nonNull ih => rw [compositeFragment, bareFragment, ih hleaf]

theorem shapedFragment_none (hleaf : position.leaf ≠ .inputObject) :
    inference.shapedFragment position none = inference.bareFragment position := by
  induction position with
  | named name leaf nonNull =>
    have hleaf : leaf ≠ .inputObject := hleaf
    rw [bareFragment, if_neg hleaf]
    rfl
  | list item nonNull ih =>
    rw [shapedFragment, bareFragment, itemsOverride, Option.bind_none, ih hleaf]
    rfl

theorem IsPlain.infer_eq {dialect : Dialect} (h : inference.IsPlain dialect) (name : String)
    (nonNull : Bool) : inference.infer name nonNull = inference.standard name nonNull := by
  rw [infer, hooked?, h.hook]
  rfl

theorem synthesize_none (id : String) : inference.synthesize position none id =
    inference.dialect.tag (inference.bareFragment position) id := by
  unfold synthesize
  by_cases hleaf : position.leaf = .inputObject
  · have hcomposite : position.isComposite = true := decide_eq_true hleaf
    rw [if_pos hcomposite, compositeFragment_eq hleaf]
  · have hcomposite : ¬position.isComposite = true := fun h => hleaf (of_decide_eq_true h)
    rw [if_neg hcomposite, shapedFragment_none hleaf]

end Inference

end ArgGuard
