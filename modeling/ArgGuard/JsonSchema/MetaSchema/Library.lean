import ArgGuard.JsonSchema.Library
import ArgGuard.JsonSchema.MetaSchema.Early
import ArgGuard.JsonSchema.MetaSchema.Recent

/-!
# The library of meta-schemas

The meta-schemas of all drafts under their addresses, so that references can lead to them.
-/

namespace ArgGuard.JsonSchema

/-- All meta-schemas with their drafts and addresses. -/
def MetaSchema.documents : List (Draft × String × Json) :=
  [(.draft4, Draft.draft4.address, draft4), (.draft6, Draft.draft6.address, draft6),
   (.draft7, Draft.draft7.address, draft7)]
  ++ Draft2019.documents.map (.draft2019, ·)
  ++ Draft2020.documents.map (.draft2020, ·)

def Library.ofMetaSchemas : Library :=
  let add (library : Library) (document : Draft × String × Json) : Option Library :=
    library.scan? (.ofText document.2.1.toList) document.1 document.2.2
  (MetaSchema.documents.foldlM add {}).getD {}

end ArgGuard.JsonSchema
