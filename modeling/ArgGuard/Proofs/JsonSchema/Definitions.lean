import ArgGuard.JsonSchema.Reference
import ArgGuard.Proofs.Members
import ArgGuard.Proofs.Sequencing

/-!
# References to definitions

All units stand as definitions in one document. If no schema in it has an identifier of its own, the
address of the document leads to the document (`resource?_ofDefinitions`), and a pointer to a definition
leads to this definition, as long as its name needs no escapes: from inside the document (`target?_eq`) and
from outside (`target?_ofDefinition`).
-/

namespace ArgGuard

/-! ### Texts in references -/

theorem toList_loop (bytes : ByteArray) (index : Nat) (behind : List UInt8) :
    ByteArray.toList.loop bytes index behind = behind.reverse ++ bytes.data.toList.drop index := by
  fun_induction ByteArray.toList.loop bytes index behind with
  | case1 index behind hlt ih =>
    have hlength : index < bytes.data.toList.length := hlt
    have hget : bytes.get! index = bytes.data.toList[index] := by
      simp [ByteArray.get!, getElem!_pos bytes.data index hlt]
    rw [ih, List.drop_eq_getElem_cons hlength, hget, List.reverse_cons, List.append_assoc]
    rfl
  | case2 index behind hlt =>
    rw [List.drop_of_length_le (by simpa using hlt), List.append_nil]

theorem toList_byteArray (bytes : ByteArray) : bytes.toList = bytes.data.toList := by
  rw [ByteArray.toList, toList_loop, List.reverse_nil, List.nil_append, List.drop_zero]

theorem JsonSchema.afterText?_append (start rest : String) :
    afterText? start (start ++ rest) = some rest := by
  have hprefix : start.toList.isPrefixOf (start ++ rest).toList = true := by
    rw [String.toList_append, List.isPrefixOf_iff_prefix]
    exact List.prefix_append _ _
  rw [afterText?, if_pos hprefix, String.toList_append, List.drop_left, String.ofList_toList]

theorem JsonSchema.afterText?_eq_some_iff {start text rest : String} :
    afterText? start text = some rest ↔ text = start ++ rest := by
  constructor
  · intro h
    rw [afterText?] at h
    split at h
    · rename_i hprefix
      cases h
      rw [← String.toList_inj, String.toList_append, String.toList_ofList]
      exact (List.prefix_iff_eq_append.1 (List.isPrefixOf_iff_prefix.1 hprefix)).symm
    · cases h
  · rintro rfl
    exact afterText?_append start rest

namespace JsonSchema.Context

theorem bytes_eq {text : List Char} (h : '%' ∉ text) : bytes text = text.flatMap String.utf8EncodeChar := by
  induction text with
  | nil => rfl
  | cons c rest ih =>
    rw [List.mem_cons, not_or] at h
    obtain ⟨hc, hrest⟩ := h
    have hbytes : bytes (c :: rest) = (String.singleton c).toUTF8.toList ++ bytes rest := by
      rw [bytes]
      exact fun _ _ _ he => absurd he.symm hc
    rw [hbytes, ih hrest, List.flatMap_cons, toList_byteArray, String.toUTF8, String.toByteArray_singleton,
      List.utf8Encode, List.data_toByteArray, List.flatMap_singleton]

theorem decode?_eq {text : List Char} (h : '%' ∉ text) : decode? text = some text := by
  have hbytes : (⟨(bytes text).toArray⟩ : ByteArray) = text.utf8Encode := by
    refine ByteArray.ext ?_
    rw [bytes_eq h, List.utf8Encode, List.data_toByteArray]
  have htext : String.fromUTF8? text.utf8Encode = some (String.ofList text) :=
    dif_pos (String.ofList text).isValidUTF8
  rw [decode?, hbytes, htext, Option.map_some, String.toList_ofList]

end JsonSchema.Context

namespace Fields

theorem ofText_eq {separator : Char} {text : List Char} (h : separator ∉ text) :
    ofText separator text = [text] := by
  induction text with
  | nil => rfl
  | cons c rest ih =>
    rw [List.mem_cons, not_or] at h
    rw [ofText, if_neg (Ne.symm h.1), ih h.2]

theorem ofText_append {separator : Char} {text : List Char} (h : separator ∉ text) (rest : List Char) :
    ofText separator (text ++ separator :: rest) = text :: ofText separator rest := by
  induction text with
  | nil => rw [List.nil_append, ofText, if_pos rfl]
  | cons c text ih =>
    rw [List.mem_cons, not_or] at h
    rw [List.cons_append, ofText, if_neg (Ne.symm h.1), ih h.2]

theorem splitAtLast_append {separator : Char} {rest : List Char} (h : separator ∉ rest) (text : List Char) :
    splitAtLast separator (text ++ separator :: rest) = some (text, rest) := by
  have hpass : ∀ c ∈ rest.reverse, (c != separator) = true := by
    intro c hc
    rw [List.mem_reverse] at hc
    exact bne_iff_ne.2 fun he => h (he ▸ hc)
  have hreverse : (text ++ separator :: rest).reverse = rest.reverse ++ separator :: text.reverse := by
    simp
  rw [splitAtLast]
  simp only [hreverse, List.dropWhile_append_of_pos hpass, List.takeWhile_append_of_pos hpass]
  simp

end Fields

theorem Pointer.unescapeChars_eq {text : List Char} (h : '~' ∉ text) : unescapeChars text = text := by
  induction text with
  | nil => rfl
  | cons c rest ih =>
    rw [List.mem_cons, not_or] at h
    rw [unescapeChars, ih h.2]
    · exact fun _ he => absurd he.symm h.1
    · exact fun _ he => absurd he.symm h.1

namespace JsonSchema

open Internet

/-! ### The library of a document -/

/-- A schema in which no schema has an identifier or a draft of its own. -/
inductive Unnamed (draft : Draft) : Json → Prop
  | schema {members : Members Json} (hid : draft.id? members = none)
      (hdraft : Draft.textOf? members "$schema" = none)
      (hinner : ∀ contents ∈ draft.subschemas members, Unnamed draft contents) :
      Unnamed draft (.object members)
  | other {contents : Json} (h : contents.object? = none) : Unnamed draft contents

theorem Unnamed.id? {draft : Draft} {members : Members Json} (h : Unnamed draft (.object members)) :
    draft.id? members = none := by
  cases h with
  | schema hid => exact hid
  | other h => cases h

namespace Library

variable {library found : Library} {draft : Draft} {entry : Entry} {inner entries : List Entry}

theorem ofReference?_resources {base : Identifier} {counts : Bool} {text : List Char}
    (h : ofReference? base counts text = some found) : found.resources = [] := by
  unfold ofReference? at h
  split at h
  · cases h; rfl
  · split at h
    · cases h; rfl
    · split at h
      · cases h; rfl
      · obtain ⟨target, -, rfl⟩ := Option.map_eq_some_iff.1 h
        rfl

theorem ofKeyword?_resources {base : Identifier} {members : Members Json} {keyword : String}
    {counts : Bool} (h : ofKeyword? base members keyword counts = some found) : found.resources = [] := by
  unfold ofKeyword? at h
  split at h
  · exact ofReference?_resources h
  · cases h; rfl

def Entry.Unnamed (draft : Draft) (entry : Entry) : Prop :=
  entry.draft = draft ∧ JsonSchema.Unnamed draft entry.contents

theorem unnamed_of_entry (h : ofEntry? entry = some (found, inner)) (hentry : entry.Unnamed draft) :
    found.resources = [] ∧ ∀ next ∈ inner, next.Unnamed draft := by
  obtain ⟨base, own, contents⟩ := entry
  obtain ⟨rfl : own = draft, hcontents : JsonSchema.Unnamed _ contents⟩ := hentry
  cases hcontents with
  | @schema members hid hdraft hinner =>
    unfold ofEntry? at h
    simp only [hid, Option.bind_eq_bind, Option.bind_eq_some_iff, Option.pure_def,
      Option.some.injEq, Prod.mk.injEq] at h
    obtain ⟨_, rfl, referred, hreferred, declared, hdeclared, rfl, rfl⟩ := h
    refine ⟨?_, fun next hnext => ?_⟩
    · simp [append, ofKeyword?_resources hreferred, ofKeyword?_resources hdeclared]
    · obtain ⟨contents, hcontents, rfl⟩ := List.mem_map.1 hnext
      have hunnamed := hinner contents hcontents
      cases contents with
      | object inside =>
        refine ⟨?_, hunnamed⟩
        cases hunnamed with
        | schema _ hinside => simp only [Draft.inside, hinside]
        | other hobject => cases hobject
      | null | bool | number | string | array => exact ⟨rfl, hunnamed⟩
  | other hobject =>
    cases contents with
    | object => cases hobject
    | null | bool | number | string | array => cases h; exact ⟨rfl, by simp⟩

theorem foldl_append_resources {founds : List (Library × List Entry)}
    (h : ∀ one ∈ founds, one.1.resources = []) (library : Library) :
    (founds.foldl (fun sum one => sum.append one.1) library).resources = library.resources :=
  List.foldlRecOn (motive := fun sum : Library => sum.resources = library.resources) founds _ rfl
    fun sum hsum one hone => by rw [append, h one hone, List.nil_append, hsum]

/-- Among schemas that are `Unnamed`, `collect?` finds nothing that a reference could lead to. -/
theorem collect?_resources {levels : Nat} (h : collect? levels library entries = some found)
    (hentries : ∀ entry ∈ entries, entry.Unnamed draft) : found.resources = library.resources := by
  induction levels generalizing library entries with
  | zero => cases h; rfl
  | succ levels ih =>
    cases entries with
    | nil => cases h; rfl
    | cons first rest =>
      rw [collect?.eq_def] at h
      simp only [Option.bind_eq_bind, Option.bind_eq_some_iff, mapM_eq_some_iff] at h
      obtain ⟨founds, hfounds, hrest⟩ := h
      have hone : ∀ one ∈ founds, one.1.resources = [] ∧ ∀ next ∈ one.2, next.Unnamed draft := by
        intro one hmem
        obtain ⟨entry, hentry, hone⟩ := exists_mem_of_forall₂ hfounds hmem
        exact unnamed_of_entry hone (hentries entry hentry)
      rw [ih hrest fun entry hentry => ?_, foldl_append_resources fun one hmem => (hone one hmem).1]
      obtain ⟨one, hmem, hentry⟩ := List.mem_flatMap.1 hentry
      exact (hone one hmem).2 entry hentry

theorem resource?_ofDefinitions {document : Json} (h : ofDefinitions? draft document = some library)
    (hdocument : JsonSchema.Unnamed draft document) :
    library.resource? documentAddress = some ⟨documentAddress, draft, document⟩ := by
  unfold ofDefinitions? at h
  simp only [Option.bind_eq_bind, Option.bind_eq_some_iff] at h
  obtain ⟨own, hown, h⟩ := h
  have hentries : ∀ entry ∈ [(⟨documentAddress, draft, document⟩ : Entry)], entry.Unnamed draft := by
    intro entry hentry
    rw [List.mem_singleton.1 hentry]
    exact ⟨rfl, hdocument⟩
  have hresources : own.resources = [⟨documentAddress, draft, document⟩] :=
    collect?_resources hown hentries
  rw [Option.ite_none_right_eq_some] at h
  rw [← Option.some.inj h.2, resource?]
  split
  · rw [append, hresources, List.singleton_append, List.find?_cons_of_pos (by simp)]
  · rw [hresources, List.find?_cons_of_pos (by simp)]

end Library

/-- Whether the address of a document leads to the document, and not to a schema in it that claims the
address for itself. -/
def LeadsHome (draft : Draft) (document : Json) : Prop :=
  ∀ library, Library.ofDefinitions? draft document = some library →
    library.resource? documentAddress = some ⟨documentAddress, draft, document⟩

theorem Unnamed.leadsHome {draft : Draft} {document : Json} (h : Unnamed draft document) :
    LeadsHome draft document :=
  fun _ hlibrary => Library.resource?_ofDefinitions hlibrary h

/-! ### Following a reference -/

/-- A name that can be written into a pointer and a reference as it is. -/
def IsPlainName (name : String) : Prop := ∀ c ∈ ['%', '/', '~', '#'], c ∉ name.toList

variable {library : Library} {draft : Draft} {definitions : Members Json} {name : String}
  {members : Members Json} {context : Context}

def documentOf (definitions : Members Json) : Json := .object [("definitions", .object definitions)]

theorem Context.withId?_eq (h : context.draft.id? members = none) :
    context.withId? members = some context := by
  rw [withId?, h]

theorem Context.walk?_definition (hname : IsPlainName name) (hid : context.draft.id? members = none)
    (hdefinition : Members.get? definitions name = some (.object members)) :
    context.walk? (documentOf definitions) [] ["definitions".toList, name.toList] =
      some (.object members, context) := by
  have hfirst : Pointer.child? "definitions".toList (documentOf definitions) =
      some (.object definitions) := rfl
  have hsecond : Pointer.child? name.toList (.object definitions) = some (.object members) := by
    rw [Pointer.child?, Pointer.unescapeChars_eq (hname _ (by simp)), String.ofList_toList, hdefinition]
  have htable : context.draft.leadsToSchema true ["definitions"] = false := rfl
  have hschema : context.draft.leadsToSchema true ["definitions", name] = true := rfl
  have hsteps : String.ofList (Pointer.unescapeChars "definitions".toList) = "definitions" := rfl
  have hlast : String.ofList (Pointer.unescapeChars name.toList) = name := by
    rw [Pointer.unescapeChars_eq (hname _ (by simp)), String.ofList_toList]
  simp only [walk?, hfirst, hsecond, hsteps, hlast, htable, hschema, withId?_eq hid, Option.bind_eq_bind,
    Option.bind_some, List.nil_append, List.singleton_append, Bool.false_eq_true, if_false, if_true]

theorem Context.fragment?_definition
    (hdocument : library.resource? context.base = some ⟨context.base, draft, documentOf definitions⟩)
    (hname : IsPlainName name) (hid : draft.id? members = none)
    (hdefinition : Members.get? definitions name = some (.object members)) :
    context.fragment? library ("/definitions/".toList ++ name.toList) =
      some (.object members, { context with draft }) := by
  have hpercent : '%' ∉ "definitions".toList ++ '/' :: name.toList := by
    simpa using hname '%' (by simp)
  have hsteps : Fields.ofText '/' ("definitions".toList ++ '/' :: name.toList) =
      ["definitions".toList, name.toList] := by
    rw [Fields.ofText_append (by decide), Fields.ofText_eq (hname _ (by simp))]
  have htext : "/definitions/".toList ++ name.toList =
      '/' :: ("definitions".toList ++ '/' :: name.toList) := by
    simp
  have hwalk : Context.walk? { context with draft } (documentOf definitions) []
      ["definitions".toList, name.toList] = some (.object members, { context with draft }) :=
    walk?_definition hname hid hdefinition
  rw [htext, fragment?, hdocument]
  simp only [Option.bind_eq_bind, Option.bind_some, decode?_eq hpercent, hsteps, hwalk]

/-- A context in the document of definitions, among schemas of a draft. -/
structure Context.InDocument (draft : Draft) (context : Context) : Prop where
  base : context.base = documentAddress
  draft : context.draft = draft

theorem Context.moveTo_base (address : Identifier) : (context.moveTo library address).base = address := by
  unfold moveTo
  split
  · rename_i h; exact h.symm
  · rfl

theorem Context.moveTo_draft (address : Identifier) :
    (context.moveTo library address).draft = context.draft := by
  unfold moveTo
  split <;> rfl

theorem resolve?_documentAddress : rootAddress.resolve? documentAddress.text = some documentAddress := by
  decide +kernel

namespace Link

variable {contents : Json} {inner : Context}

section
variable (hdocument : library.resource? documentAddress =
  some ⟨documentAddress, draft, documentOf definitions⟩)
  (hname : IsPlainName name) (hid : draft.id? members = none)
  (hdefinition : Members.get? definitions name = some (.object members))
include hdocument hname hid hdefinition

theorem target?_eq (hcontext : context.InDocument draft)
    (h : target? library ⟨context, (definitionsPath ++ name).toList, false⟩ = some (contents, inner)) :
    contents = .object members ∧ inner = context := by
  have htext : (definitionsPath ++ name).toList = '#' :: ("/definitions/".toList ++ name.toList) := by
    simp [definitionsPath]
  have hbase : library.resource? context.base = some ⟨context.base, draft, documentOf definitions⟩ := by
    rw [hcontext.base, hdocument]
  simp only [target?, Bool.false_eq_true, if_false, htext, Context.lookup?, Option.bind_eq_bind,
    Option.bind_eq_some_iff, Context.fragment?_definition hbase hname hid hdefinition] at h
  obtain ⟨_, -, h⟩ := h
  cases h
  refine ⟨rfl, ?_⟩
  rw [← hcontext.draft]

/-- `Link.ofDefinition`, from outside of the document, leads to the definition. -/
theorem target?_ofDefinition
    (h : target? library (.ofDefinition draft (definitionsPath ++ name)) = some (contents, inner)) :
    contents = .object members ∧ inner.InDocument draft := by
  have htext : documentAddress.text ++ (definitionsPath ++ name).toList =
      documentAddress.text ++ '#' :: ("/definitions/".toList ++ name.toList) := by
    simp [definitionsPath]
  have hmark : '#' ∉ "/definitions/".toList ++ name.toList := by
    simpa using hname '#' (by simp)
  have hstart : ∀ fragment, documentAddress.text ++ '#' :: ("/definitions/".toList ++ name.toList) ≠
      '#' :: fragment := fun _ hstart => by cases hstart
  rw [target?, if_neg (by simp [ofDefinition]), ofDefinition, htext, Context.lookup?.eq_2 _ _ _ hstart] at h
  simp only [Option.bind_eq_bind, Option.bind_eq_some_iff] at h
  obtain ⟨_, -, address, haddress, h⟩ := h
  rw [Fields.splitAtLast_append hmark, Option.getD_some] at haddress h
  cases resolve?_documentAddress.symm.trans haddress
  have hmoved : (Context.moveTo ⟨rootAddress, draft, [], none⟩ library documentAddress).InDocument draft :=
    ⟨Context.moveTo_base _, Context.moveTo_draft _⟩
  rw [Context.fragment?_definition (by rw [hmoved.base, hdocument]) hname hid hdefinition] at h
  cases h
  exact ⟨rfl, hmoved.base, rfl⟩

end

end Link

end JsonSchema

end ArgGuard
