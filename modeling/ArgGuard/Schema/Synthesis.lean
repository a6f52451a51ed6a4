import ArgGuard.Schema.Inference

/-!
# The fragment of a position

A position's fragment is built from the shape of its leaf and one list per level, and the override
is laid over it level by level: what stands under `items` in the override is the override of the
items. A position whose leaf is an input object becomes a reference to the unit of that type,
whatever the override says, so that every input object has one unit however many positions use it,
and cyclic types stay finite.
-/

namespace ArgGuard

namespace Dialect

/-- The key of the fragment of a list's items, and of the override for them. -/
def itemsKey : String := "items"

/-- Whether an override's key is laid over a fragment: identity keys that the fragment has stay, and
so does what is skipped. -/
def overlays (dialect : Dialect) (skipped : List String) (fragment : Fragment) (key : String) :
    Bool :=
  !(dialect.identityKeys.contains key && Members.contains fragment key) && !skipped.contains key

/-- Lays an override over a fragment, key by key. -/
def merge (dialect : Dialect) (skipped : List String) (fragment overlay : Fragment) : Fragment :=
  overlay.foldl
    (fun fragment (key, value) =>
      if dialect.overlays skipped fragment key then Members.set fragment key value else fragment)
    fragment

end Dialect

namespace Inference

/-- The fragment of a position whose leaf is an input object. -/
def compositeFragment (dialect : Dialect) : Position → Fragment
  | .named name _ nonNull => dialect.reference (dialect.referenceId name none none) (!nonNull)
  | .list item nonNull => dialect.array (compositeFragment dialect item) (!nonNull)

def itemsOverride (override : Option Fragment) : Option Fragment :=
  override.bind fun fragment =>
    (Members.get? fragment Dialect.itemsKey).bind Json.object?

/-- Lays an override, if there is one, over a fragment. -/
def overlaid (inference : Inference) (skipped : List String) (base : Fragment)
    (override : Option Fragment) : Fragment :=
  match override with
  | some overlay => inference.dialect.merge skipped base overlay
  | none => base

/-- The fragment of a position whose leaf is not an input object. -/
def shapedFragment (inference : Inference) : Position → Option Fragment → Fragment
  | .named name _ nonNull, override =>
    inference.overlaid [] (inference.infer name nonNull) override
  | .list item nonNull, override =>
    let items := inference.shapedFragment item (itemsOverride override)
    inference.overlaid [Dialect.itemsKey] (inference.dialect.array items (!nonNull)) override

/-- The fragment of a position, tagged with its name. -/
def synthesize (inference : Inference) (position : Position) (override : Option Fragment)
    (id : String) : Fragment :=
  let fragment :=
    if position.isComposite then compositeFragment inference.dialect position
    else inference.shapedFragment position override
  inference.dialect.tag fragment id

end Inference

end ArgGuard
