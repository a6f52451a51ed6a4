import ArgGuard.Graph.Basic
import ArgGuard.Override.Basic

/-!
# Overrides in the schema

The directive `@constraint` declares a fragment where it stands: on an input object, on one of its
fields, or on an argument of a field. The arguments of all constraints of a position form one
fragment, in which a later argument overwrites an earlier one of the same name in place. A
constraint without arguments declares the empty fragment.
-/

namespace ArgGuard

namespace Overrides

/-- The directive that declares a fragment. -/
def constraintName : String := "constraint"

/-- The fragment that directives declare together. -/
def constraintFragment (directives : List Directive) : Option Fragment :=
  let constraints := directives.filter (·.name = constraintName)
  if constraints.isEmpty then none
  else some (Members.ofList (constraints.flatMap (·.arguments)))

/-- The constraints of a field of an input object. -/
def collectInputField (type : GraphType) (found : Overrides) (field : GraphField) : Overrides :=
  match constraintFragment field.directives with
  | some fragment => found.setInputField ⟨type.name, field.name⟩ fragment
  | none => found

/-- The constraints of an argument. -/
def collectArgument (type : GraphType) (field : GraphField) (found : Overrides)
    (argument : GraphArgument) : Overrides :=
  match constraintFragment argument.directives with
  | some fragment =>
    found.setArgument ⟨type.name, field.name, argument.name⟩ (.fragment fragment)
  | none => found

/-- The constraints of a type. -/
def collectType (found : Overrides) (type : GraphType) : Overrides :=
  if type.isInputObject then
    let found := match constraintFragment type.directives with
      | some fragment => found.setType type.name fragment
      | none => found
    type.fields.foldl (collectInputField type) found
  else if type.isOutputObject then
    type.fields.foldl
      (fun found field => field.arguments.foldl (collectArgument type field) found) found
  else found

/-- The constraints of a schema. -/
def ofDirectives (graph : TypeGraph) : Overrides :=
  (graph.types.filter (!·.isIntrospection)).foldl collectType empty

end Overrides

end ArgGuard
