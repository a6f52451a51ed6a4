import ArgGuard.Schema.Dialect

/-!
# Shapes of leaves

The shape of a named type follows from its name alone: a hook of the host may know it; otherwise it
is a built-in scalar, an enumeration of the schema, or nothing is known and the fragment is empty.
-/

namespace ArgGuard

/-- A host's own shapes, by type name and whether `null` is refused. -/
abbrev InferenceHook := String → Bool → Option Fragment

/-- What shapes of leaves are derived from. -/
structure Inference where
  dialect : Dialect
  hook : Option InferenceHook := none
  enumerations : Members (List String) := []

namespace Inference

/-- The hook's fragment, if it has one that is not empty. -/
def hooked? (inference : Inference) (leafName : String) (nonNull : Bool) : Option Fragment :=
  (inference.hook.bind fun hook => hook leafName nonNull).filter fun fragment => !fragment.isEmpty

/-- The shape of a leaf without the hook. -/
def standard (inference : Inference) (leafName : String) (nonNull : Bool) : Fragment :=
  match Builtin.ofName? leafName with
  | some scalar => inference.dialect.primitive scalar (!nonNull)
  | none =>
    match Members.get? inference.enumerations leafName with
    | some values => inference.dialect.enumeration values (!nonNull)
    | none => []

/-- The shape of a leaf; empty where nothing is known. -/
def infer (inference : Inference) (leafName : String) (nonNull : Bool) : Fragment :=
  (inference.hooked? leafName nonNull).getD (inference.standard leafName nonNull)

end Inference

end ArgGuard
