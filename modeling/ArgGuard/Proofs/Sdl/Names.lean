import ArgGuard.Proofs.Graph.Classification
import ArgGuard.Sdl.Document
import Mathlib.Data.List.TakeWhile

/-!
# Names in schema documents

Every name in a document was read by one and the same reader, so it is made of the characters that go into
names. `Reader.Yields` says what whatever a reader reads has in common; it passes through sequencing, choice
and repetition, and with it through the readers of the schema language, up to the whole document
(`parse_names`) and the graph that is built from it (`TypeGraph.parse_hasNames`).
-/

namespace ArgGuard

namespace Reader

variable {α β : Type} {P : α → Prop} {Q : β → Prop}

/-- Whatever the reader reads has a property. -/
def Yields (reader : Reader α) (P : α → Prop) : Prop :=
  ∀ text value rest, reader text = some (value, rest) → P value

theorem Yields.pure {value : α} (h : P value) : Yields (Pure.pure value : Reader α) P := by
  rintro text _ rest ⟨⟩
  exact h

theorem yields_true (reader : Reader α) : reader.Yields fun _ => True := fun _ _ _ _ => trivial

theorem Yields.bind {reader : Reader α} {next : α → Reader β} (h : reader.Yields P)
    (hnext : ∀ value, P value → (next value).Yields Q) : Yields (reader >>= next) Q := by
  intro text value rest hread
  obtain ⟨⟨first, left⟩, hfirst, hread⟩ := Option.bind_eq_some_iff.1 hread
  exact hnext first (h text first left hfirst) left value rest hread

theorem Yields.after {next : α → Reader β} (hnext : ∀ value, (next value).Yields Q) (reader : Reader α) :
    Yields (reader >>= next) Q :=
  (yields_true reader).bind fun value _ => hnext value

theorem Yields.seqRight {reader : Reader β} (h : reader.Yields Q) (first : Reader α) :
    Yields (first *> reader) Q :=
  Yields.after (fun _ => h) first

theorem Yields.seqLeft {reader : Reader α} (h : reader.Yields P) (last : Reader β) :
    Yields (reader <* last) P :=
  h.bind fun _ hvalue => Yields.after (fun _ => Yields.pure hvalue) last

theorem Yields.map {reader : Reader α} {f : α → β} (h : reader.Yields P)
    (hf : ∀ value, P value → Q (f value)) : Yields (f <$> reader) Q := by
  intro text _ rest hread
  obtain ⟨⟨first, left⟩, hfirst, heq⟩ := Option.bind_eq_some_iff.1 hread
  cases heq
  exact hf first (h text first _ hfirst)

theorem Yields.orElse {reader other : Reader α} (h : reader.Yields P) (hother : other.Yields P) :
    Yields (reader <|> other) P := by
  intro text value rest hread
  have hread : (reader text).orElse (fun _ => other text) = some (value, rest) := hread
  cases hfirst : reader text with
  | none =>
    rw [hfirst] at hread
    exact hother text value rest hread
  | some found =>
    rw [hfirst] at hread
    cases hread
    exact h text _ _ hfirst

theorem Yields.optional {reader : Reader α} (h : reader.Yields P) :
    (Reader.optional reader).Yields fun found => ∀ value ∈ found, P value :=
  (h.map fun value hvalue found hfound => (Option.mem_some_iff.1 hfound) ▸ hvalue).orElse
    (Yields.pure fun value hvalue => by cases hvalue)

theorem Yields.firstOf {readers : List (Reader α)} (h : ∀ reader ∈ readers, reader.Yields P) :
    (Reader.firstOf readers).Yields P := by
  induction readers with
  | nil => exact fun _ _ _ hread => by cases hread
  | cons reader others ih =>
    rw [List.forall_mem_cons] at h
    exact h.1.orElse (ih h.2)

theorem Yields.repeated {reader : Reader α} (h : reader.Yields P) (fuel : Nat) :
    Yields (Reader.repeated reader fuel) fun values => ∀ value ∈ values, P value := by
  intro text values rest hread
  induction fuel generalizing text values rest with
  | zero => cases hread; simp
  | succ fuel ih =>
    rw [Reader.repeated] at hread
    split at hread
    · cases hread; simp
    · rename_i value left hvalue
      split at hread
      · rename_i others left hothers
        cases hread
        rw [List.forall_mem_cons]
        exact ⟨h _ _ _ hvalue, ih _ _ _ hothers⟩
      · cases hread

theorem Yields.many1 {reader : Reader α} (h : reader.Yields P) :
    (Reader.many1 reader).Yields fun values => ∀ value ∈ values, P value := by
  refine h.bind fun first hfirst => Yields.bind (P := fun others => ∀ value ∈ others, P value) ?_ ?_
  · exact fun text values rest hread => h.repeated (text.length + 1) text values rest hread
  · exact fun others hothers => Yields.pure (List.forall_mem_cons.2 ⟨hfirst, hothers⟩)

theorem Yields.parseAll {reader : Reader α} (h : reader.Yields P) {text : String} {value : α}
    (hread : reader.parseAll text = some value) : P value := by
  unfold Reader.parseAll at hread
  split at hread
  · rename_i found rest hfound
    cases hread
    exact h.seqLeft _ _ _ _ hfound
  · cases hread

end Reader

namespace Sdl

/-- A text of characters that names are written with. -/
def IsName (name : String) : Prop := ∀ c ∈ name.toList, isNameChar c = true

instance (name : String) : Decidable (IsName name) :=
  decidable_of_iff (name.toList.all isNameChar = true) List.all_eq_true

/-- A definition of a type with well-formed names, its own and those of its fields. -/
structure NamesDefinition (definition : TypeDefinition) : Prop where
  type : IsName definition.name
  fields : ∀ kindOf, ∀ field ∈ definition.fields kindOf, IsName field.name

theorem takeWhile_yields (test : Char → Bool) :
    (Reader.takeWhile test).Yields fun found => ∀ c ∈ found, test c = true := by
  intro text _ rest hread
  cases hread
  exact fun c hc => List.mem_takeWhile_imp hc

theorem name_yields : name.Yields IsName := by
  have hstart : (Reader.satisfy isNameStart).Yields fun c => isNameStart c = true := by
    intro text c rest hread
    cases text with
    | nil => cases hread
    | cons first others =>
      rw [Reader.satisfy] at hread
      split at hread
      · rename_i htest
        cases hread
        exact htest
      · cases hread
  refine Reader.Yields.seqRight (hstart.bind fun first hfirst => ?_) _
  refine (takeWhile_yields isNameChar).bind fun others hothers => Reader.Yields.pure ?_
  intro c hc
  rw [String.toList_ofList, List.mem_cons] at hc
  rcases hc with rfl | hc
  · rw [isNameChar, hfirst, Bool.true_or]
  · exact hothers c hc

theorem inputValue_yields : inputValue.Yields fun value => IsName value.name := by
  refine .after (fun _ => name_yields.bind fun valueName hname => ?_) _
  refine .after (fun _ => .after (fun _ => .after (fun _ => .after (fun _ => ?_) _) _) _) _
  exact .pure hname

theorem fieldDefinition_yields : fieldDefinition.Yields fun field => IsName field.name := by
  refine .after (fun _ => name_yields.bind fun fieldName hname => ?_) _
  refine .after (fun _ => .after (fun _ => .after (fun _ => .after (fun _ => ?_) _) _) _) _
  exact .pure hname

theorem braced_yields {α : Type} {entry : Reader α} {P : α → Prop} (h : entry.Yields P) :
    (braced entry).Yields fun entries => ∀ entry ∈ entries, P entry :=
  (h.many1.seqRight _).seqLeft _

theorem headed_yields (extending : Bool) (keyword : String) : (headed extending keyword).Yields IsName := by
  cases extending with
  | true => exact .after (fun _ => .after (fun _ => name_yields) _) _
  | false => exact .after (fun _ => .after (fun _ => name_yields) _) _

theorem directivesAndBody_yields {α : Type} {body : Reader α} {absent : α} {P : α → Prop}
    (h : body.Yields P) (habsent : P absent) (extending : Bool) :
    (directivesAndBody extending absent body).Yields fun found => P found.2 := by
  refine .after (fun found => h.optional.bind fun rest hrest => ?_) _
  have hpure : Reader.Yields (pure (found.getD [], rest.getD absent)) fun found => P found.2 := by
    refine .pure ?_
    cases rest with
    | none => exact habsent
    | some value => exact hrest value rfl
  dsimp only
  split
  · exact .after (fun _ => hpure) _
  · exact hpure

section
variable {name : String} {directives : List Directive}

theorem namesDefinition_bare (hname : IsName name) {body : TypeBody}
    (h : ∀ kindOf, (⟨name, directives, body⟩ : TypeDefinition).fields kindOf = []) :
    NamesDefinition ⟨name, directives, body⟩ where
  type := hname
  fields kindOf field hfield := by
    rw [h] at hfield
    cases hfield

theorem namesDefinition_object (hname : IsName name) {fields : List FieldDefinition}
    (h : ∀ field ∈ fields, IsName field.name) {body : TypeBody}
    (hbody : body = .object fields ∨ body = .interface fields) :
    NamesDefinition ⟨name, directives, body⟩ where
  type := hname
  fields kindOf field hfield := by
    have hmem : field ∈ fields.map (GraphField.ofDefinition kindOf) := by
      rcases hbody with rfl | rfl <;> exact hfield
    obtain ⟨declared, hdeclared, rfl⟩ := List.mem_map.1 hmem
    exact h declared hdeclared

theorem namesDefinition_inputObject (hname : IsName name) {fields : List InputValue}
    (h : ∀ field ∈ fields, IsName field.name) : NamesDefinition ⟨name, directives, .inputObject fields⟩ where
  type := hname
  fields kindOf field hfield := by
    obtain ⟨declared, hdeclared, rfl⟩ := List.mem_map.1 hfield
    exact h declared hdeclared

end

theorem scalarType_yields (extending : Bool) : (scalarType extending).Yields NamesDefinition := by
  refine (headed_yields extending "scalar").bind fun typeName hname => ?_
  cases extending with
  | true => exact .after (fun _ => .pure (namesDefinition_bare hname fun _ => rfl)) _
  | false => exact .after (fun _ => .pure (namesDefinition_bare hname fun _ => rfl)) _

theorem objectType_yields (extending : Bool) : (objectType extending).Yields NamesDefinition := by
  refine (headed_yields extending "type").bind fun typeName hname => .after (fun interfaces => ?_) _
  refine (directivesAndBody_yields (braced_yields fieldDefinition_yields) (by simp) _).bind
    fun found hfields => ?_
  exact .pure (namesDefinition_object hname hfields (.inl rfl))

theorem interfaceType_yields (extending : Bool) : (interfaceType extending).Yields NamesDefinition := by
  refine (headed_yields extending "interface").bind fun typeName hname => .after (fun _ => ?_) _
  refine (directivesAndBody_yields (braced_yields fieldDefinition_yields) (by simp) _).bind
    fun found hfields => ?_
  exact .pure (namesDefinition_object hname hfields (.inr rfl))

theorem unionType_yields (extending : Bool) : (unionType extending).Yields NamesDefinition := by
  refine (headed_yields extending "union").bind fun typeName hname => .after (fun found => ?_) _
  exact .pure (namesDefinition_bare hname fun _ => rfl)

theorem enumerationType_yields (extending : Bool) : (enumerationType extending).Yields NamesDefinition := by
  refine (headed_yields extending "enum").bind fun typeName hname => .after (fun found => ?_) _
  exact .pure (namesDefinition_bare hname fun _ => rfl)

theorem inputObjectType_yields (extending : Bool) : (inputObjectType extending).Yields NamesDefinition := by
  refine (headed_yields extending "input").bind fun typeName hname => ?_
  refine (directivesAndBody_yields (braced_yields inputValue_yields) (by simp) _).bind
    fun found hfields => ?_
  exact .pure (namesDefinition_inputObject hname hfields)

theorem typeDefinition_yields : typeDefinition.Yields NamesDefinition := by
  refine .firstOf fun reader hreader => ?_
  obtain ⟨kind, hkind, hreader⟩ := List.mem_flatMap.1 hreader
  have hyields : ∀ extending, (kind extending).Yields NamesDefinition := by
    simp only [List.mem_cons, List.not_mem_nil, or_false] at hkind
    rcases hkind with rfl | rfl | rfl | rfl | rfl | rfl
    · exact scalarType_yields
    · exact objectType_yields
    · exact interfaceType_yields
    · exact unionType_yields
    · exact enumerationType_yields
    · exact inputObjectType_yields
  rcases List.mem_cons.1 hreader with rfl | hreader
  · exact hyields false
  · rw [List.mem_singleton.1 hreader]
    exact hyields true

theorem parse_names {text : String} {definitions : List TypeDefinition} (h : parse text = some definitions) :
    ∀ definition ∈ definitions, NamesDefinition definition := by
  obtain ⟨found, hfound, rfl⟩ := Option.map_eq_some_iff.1 h
  have hone : definition.Yields fun found => ∀ definition ∈ found, NamesDefinition definition := by
    have hnone : Reader.Yields (pure none : Reader (Option TypeDefinition))
        fun found => ∀ definition ∈ found, NamesDefinition definition :=
      .pure fun _ hmem => by cases hmem
    refine (hnone.seqRight _).orElse (Reader.Yields.orElse ?_ (hnone.seqRight _))
    exact typeDefinition_yields.map fun value hvalue found hmem => Option.mem_some_iff.1 hmem ▸ hvalue
  intro definition hdefinition
  obtain ⟨entry, hentry, heq⟩ := List.mem_filterMap.1 hdefinition
  exact (hone.many1.seqLeft skip).parseAll hfound entry hentry definition heq

end Sdl

namespace TypeGraph

/-- A graph in which types and fields have well-formed names. -/
def HasNames (graph : TypeGraph) : Prop :=
  ∀ type ∈ graph.types, Sdl.IsName type.name ∧ ∀ field ∈ type.fields, Sdl.IsName field.name

instance (graph : TypeGraph) : Decidable graph.HasNames :=
  inferInstanceAs (Decidable (∀ type ∈ graph.types, Sdl.IsName type.name ∧ ∀ field ∈ type.fields,
    Sdl.IsName field.name))

theorem exists_definition {kindOf : String → Option TypeKind} {definitions : List TypeDefinition}
    {types : List GraphType} {name : String}
    (h : name ∈ (definitions.foldl (absorb kindOf) types).map (·.name)) :
    name ∈ types.map (·.name) ∨ ∃ definition ∈ definitions, definition.name = name := by
  induction definitions generalizing types with
  | nil => exact .inl h
  | cons definition rest ih =>
    rcases ih h with hname | ⟨other, hother, hname⟩
    · rw [names_absorb] at hname
      split at hname
      · exact .inl hname
      · rcases List.mem_append.1 hname with hname | hname
        · exact .inl hname
        · exact .inr ⟨definition, List.mem_cons_self, (List.mem_singleton.1 hname).symm⟩
    · exact .inr ⟨other, List.mem_cons_of_mem _ hother, hname⟩

/-- `HasNames` holds of every graph that `parse` gives. -/
theorem parse_hasNames {text : String} {graph : TypeGraph} (h : parse text = some graph) :
    graph.HasNames := by
  obtain ⟨definitions, hdefinitions, rfl⟩ := Option.map_eq_some_iff.1 h
  have hnames := Sdl.parse_names hdefinitions
  have htypes : ∀ name ∈ (ofDefinitions definitions).types.map (·.name), Sdl.IsName name := by
    intro name hname
    rcases exists_definition hname with hname | ⟨definition, hdefinition, rfl⟩
    · cases hname
    · exact (hnames definition hdefinition).type
  have hfields : ∀ type ∈ (ofDefinitions definitions).types, ∀ field ∈ type.fields, Sdl.IsName field.name :=
    fields_foldl_absorb (fun definition hdefinition => (hnames definition hdefinition).fields _) (by simp)
  exact fun type htype => ⟨htypes _ (List.mem_map.2 ⟨type, htype, rfl⟩), hfields type htype⟩

end TypeGraph

end ArgGuard
