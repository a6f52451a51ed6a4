import ArgGuard.Interception.Resolver
import ArgGuard.Proofs.Backend.Objects
import ArgGuard.Proofs.Registry.Functions

/-!
# The verdict of a guard

A guard lets a call through if the validator of the field accepts the arguments and no function
rejects one that is there; otherwise its answer lists what the validator has found and, after that,
what the functions have. `guard_verdict` says so of every compiled field. An object that is accepted
comes back as an object, so the case of `checkArguments` that drops the answer is never taken
(`checkArguments_cases`).

That functions are asked at all cannot be seen from the answer of functions without effects, nor how
often the resolver behind the guard is called. So the guard is run once more, with functions that may
have effects (`FieldValidator.guard`). Where they have none it is the guard of the resolvers
(`guard_quietly`); where they leave a mark of every question, as the resolver does of every call, the
marks tell what happened and in which order (`guard_marking`).
-/

namespace ArgGuard

/-- A function and what it is asked. -/
abbrev Question := ArgumentFunction × FunctionCall

/-- What a function is asked in a call, if its argument is there. -/
def ArgumentFunction.question? (function : ArgumentFunction) (call : ResolverCall) : Option Question :=
  (Members.get? call.arguments function.site.coordinate.argumentName).map fun value =>
    (function, ⟨function.site, value, call.arguments, call.context, call.info⟩)

namespace Question

variable {question : Question} {questions : List Question} {rejection : Rejection}

def argument (question : Question) : String := question.1.site.coordinate.argumentName

def answer (question : Question) : Except Rejection Unit := question.1.function.judge question.2

/-- The failure of a question that is answered by a rejection. -/
def rejection? (question : Question) : Option ArgumentFailure :=
  match question.answer with
  | .ok () => none
  | .error rejection =>
    some ⟨some question.argument, "/" ++ question.argument ++ rejection.path.getD "", rejection.message⟩

def rejections (questions : List Question) : List ArgumentFailure := questions.filterMap rejection?

theorem rejections_eq_nil (h : ∀ question ∈ questions, question.answer = .ok ()) :
    rejections questions = [] :=
  List.filterMap_eq_nil_iff.2 fun question hquestion => by rw [rejection?, h question hquestion]

theorem rejections_ne_nil (hquestion : question ∈ questions) (h : question.answer = .error rejection) :
    rejections questions ≠ [] := by
  intro hnil
  have hnone := List.filterMap_eq_nil_iff.1 hnil question hquestion
  rw [rejection?, h] at hnone
  cases hnone

end Question

theorem ArgumentFunction.failure?_eq (function : ArgumentFunction) (call : ResolverCall) :
    function.failure? call = (function.question? call).bind Question.rejection? := by
  unfold failure? question?
  dsimp only
  cases Members.get? call.arguments function.site.coordinate.argumentName with
  | none => rfl
  | some value =>
    dsimp only [Option.map_some, Option.bind_some]
    rw [Question.rejection?, Question.answer]
    cases function.function.judge ⟨function.site, value, call.arguments, call.context, call.info⟩ <;> rfl

namespace FieldValidator

variable {field : FieldValidator} {call : ResolverCall} {arguments : Members Json}
  {found : List ArgumentFailure}

/-- The questions that a call puts to the functions of a field, in their order. -/
def questions (field : FieldValidator) (call : ResolverCall) : List Question :=
  field.functions.filterMap (·.question? call)

theorem filterMap_failure? (functions : List ArgumentFunction) (call : ResolverCall) :
    functions.filterMap (·.failure? call) =
      Question.rejections (functions.filterMap (·.question? call)) := by
  rw [Question.rejections, List.filterMap_filterMap]
  exact List.filterMap_congr fun function _ => function.failure?_eq call

/-! ### The answer -/

theorem checkArguments_cases (field : FieldValidator) (arguments : Members Json) :
    (∃ converted, field.validator.validate (.object arguments) = .ok (.object converted) ∧
      Members.names converted = Members.names arguments ∧
      field.checkArguments arguments = (converted, [])) ∨
    ∃ failures, field.validator.validate (.object arguments) = .error failures ∧ failures ≠ [] ∧
      field.checkArguments arguments = (arguments, failures.map .ofSchema) := by
  unfold checkArguments
  cases h : field.validator.validate (.object arguments) with
  | ok answer =>
    obtain ⟨converted, rfl, hnames⟩ := field.validator.validate_object h
    exact .inl ⟨converted, rfl, hnames, rfl⟩
  | error failures =>
    refine .inr ⟨failures, rfl, fun hnil => ?_, rfl⟩
    exact field.validator.validate_ne_nil (hnil ▸ h)

/-- What becomes of a call in which so much was found wrong. -/
def settle (seen : ResolverCall) : List ArgumentFailure → Except (List ArgumentFailure) ResolverCall
  | [] => .ok seen
  | failures => .error failures

/-- The answer to a call of which it is settled what becomes of it. -/
def answer {m : Type → Type} [Pure m] (field : FieldValidator) (inner : ResolverCall → m Resolution) :
    Except (List ArgumentFailure) ResolverCall → m Resolution
  | .ok seen => inner seen
  | .error failures => pure (.error (.validation ⟨field.coordinate, failures⟩))

theorem resolve_guarded {m : Type → Type} [Pure m] {inForce : InForce} {layer : LayerId}
    {coordinate : Coordinate} (hfield : (inForce layer).field? coordinate = some field)
    (inner : Resolver m) (h : field.checkArguments call.arguments = (arguments, found)) :
    (Resolver.guarded layer coordinate inner).resolve inForce call =
      field.answer (inner.resolve inForce) (settle { call with arguments }
        (found ++ Question.rejections (field.questions { call with arguments }))) := by
  rw [Resolver.resolve, Registry.admitted, hfield, questions, ← filterMap_failure?]
  dsimp only
  rw [validateArguments, h]
  dsimp only
  cases found ++ field.functions.filterMap fun function => function.failure? { call with arguments } <;> rfl

/-! ### What happens meanwhile -/

section
variable {m : Type → Type} [Monad m] (judge : Question → m (Except Rejection Unit))

/-- Asks one function after the other, and goes on after a rejection. -/
def ask (call : ResolverCall) : List ArgumentFunction → m (List ArgumentFailure)
  | [] => pure []
  | function :: rest =>
    match function.question? call with
    | none => ask call rest
    | some question => do
      let verdict ← judge question
      let failures ← ask call rest
      match verdict with
      | .ok () => return failures
      | .error rejection =>
        return .ofRejection function.site.coordinate.argumentName rejection :: failures

/-- The guard of a field whose functions may have effects. -/
def guard (field : FieldValidator) (inner : ResolverCall → m Resolution) (call : ResolverCall) :
    m Resolution := do
  let (arguments, found) := field.checkArguments call.arguments
  let rejections ← ask judge { call with arguments } field.functions
  field.answer inner (settle { call with arguments } (found ++ rejections))

end

inductive Mark
  | asked (question : Question)
  | called (call : ResolverCall)

/-- The answer of a function, and a mark of the question. -/
def marking (question : Question) : StateM (List Mark) (Except Rejection Unit) := do
  modify (· ++ [.asked question])
  return question.answer

/-- The answer of a resolver, and a mark of the call. -/
def noting (resolver : ResolverCall → Resolution) (call : ResolverCall) :
    StateM (List Mark) Resolution := do
  modify (· ++ [.called call])
  return resolver call

theorem question?_fst {function : ArgumentFunction} {question : Question}
    (h : function.question? call = some question) : question.1 = function := by
  obtain ⟨value, -, rfl⟩ := Option.map_eq_some_iff.1 h
  rfl

theorem ask_cons_some {m : Type → Type} [Monad m]
    {judge : Question → m (Except Rejection Unit)} {function : ArgumentFunction} {question : Question}
    (h : function.question? call = some question) (rest : List ArgumentFunction) :
    ask judge call (function :: rest) = do
      let verdict ← judge question
      let failures ← ask judge call rest
      match verdict with
      | .ok () => return failures
      | .error rejection =>
        return .ofRejection question.argument rejection :: failures := by
  rw [ask, h, Question.argument, question?_fst h]

/-- In a pure monad `ask` comes to `Question.rejections`. -/
theorem ask_pure {m : Type → Type} [Monad m] [LawfulMonad m] (call : ResolverCall)
    (functions : List ArgumentFunction) : ask (m := m) (fun question => pure question.answer) call functions =
      pure (Question.rejections (functions.filterMap (·.question? call))) := by
  induction functions with
  | nil => rfl
  | cons function rest ih =>
    rw [List.filterMap_cons]
    cases hquestion : function.question? call with
    | none => rw [ask, hquestion]; exact ih
    | some question =>
      rw [ask_cons_some hquestion]
      simp only [ih, pure_bind, Question.rejections, List.filterMap_cons, Question.rejection?]
      cases question.answer <;> rfl

theorem ask_marking (call : ResolverCall) (functions : List ArgumentFunction) (marks : List Mark) :
    (ask marking call functions).run marks =
      (Question.rejections (functions.filterMap (·.question? call)),
        marks ++ (functions.filterMap (·.question? call)).map .asked) := by
  -- the marks grow at their end, so the induction is for all that were left before
  induction functions generalizing marks with
  | nil => exact congrArg (Prod.mk []) (List.append_nil marks).symm
  | cons function rest ih =>
    rw [List.filterMap_cons]
    cases hquestion : function.question? call with
    | none => rw [ask, hquestion]; exact ih marks
    | some question =>
      have hrest := ih (marks ++ [.asked question])
      rw [ask_cons_some hquestion]
      simp only [marking, StateT.run_bind, StateT.run_modify, StateT.run_pure, pure_bind, hrest,
        Question.rejections, List.filterMap_cons, Question.rejection?, List.map_cons]
      rw [List.append_assoc]
      cases question.answer <;> rfl

/-- In a pure monad `FieldValidator.guard` is `Resolver.guarded`. -/
theorem guard_quietly {m : Type → Type} [Monad m] [LawfulMonad m] {inForce : InForce} {layer : LayerId}
    {coordinate : Coordinate} (hfield : (inForce layer).field? coordinate = some field) (inner : Resolver m)
    (call : ResolverCall) :
    field.guard (fun question => pure question.answer) (inner.resolve inForce) call =
      (Resolver.guarded layer coordinate inner).resolve inForce call := by
  cases h : field.checkArguments call.arguments with
  | mk arguments found =>
    rw [resolve_guarded hfield inner h, guard, h]
    dsimp only
    rw [ask_pure, pure_bind]
    rfl

theorem guard_marking (resolver : ResolverCall → StateM (List Mark) Resolution)
    (h : field.checkArguments call.arguments = (arguments, found)) (marks : List Mark) :
    (field.guard marking resolver call).run marks = (field.answer resolver (settle { call with arguments }
      (found ++ Question.rejections (field.questions { call with arguments })))).run
        (marks ++ (field.questions { call with arguments }).map .asked) := by
  rw [guard, h]
  dsimp only
  rw [StateT.run_bind, ask_marking]
  rfl

/-- A call that goes through: all functions are asked what they are asked, and then the resolver behind
the guard is called once. -/
structure GoesThrough (inForce : InForce) (layer : LayerId) (field : FieldValidator)
    (call seen : ResolverCall) : Prop where
  resolve : ∀ {m : Type → Type} [Pure m] (inner : Resolver m),
    (Resolver.guarded layer field.coordinate inner).resolve inForce call = inner.resolve inForce seen
  marks : ∀ resolver : ResolverCall → Resolution, (field.guard marking (noting resolver) call).run [] =
    (resolver seen, (field.questions seen).map .asked ++ [.called seen])

/-- A call that is refused: all functions are asked what they are asked, and the resolver behind the
guard is not called. -/
structure IsRefused (inForce : InForce) (layer : LayerId) (field : FieldValidator)
    (call seen : ResolverCall) (failures : List ArgumentFailure) : Prop where
  resolve : ∀ {m : Type → Type} [Pure m] (inner : Resolver m),
    (Resolver.guarded layer field.coordinate inner).resolve inForce call =
      pure (.error (.validation ⟨field.coordinate, failures⟩))
  marks : ∀ resolver : ResolverCall → Resolution, (field.guard marking (noting resolver) call).run [] =
    (.error (.validation ⟨field.coordinate, failures⟩), (field.questions seen).map .asked)

theorem checkArguments_ok (h : field.validator.validate (.object call.arguments) = .ok (.object arguments)) :
    field.checkArguments call.arguments = (arguments, []) := by
  rw [checkArguments, h]

theorem checkArguments_error {failures : List ValueFailure}
    (h : field.validator.validate (.object call.arguments) = .error failures) :
    field.checkArguments call.arguments = (call.arguments, failures.map .ofSchema) := by
  rw [checkArguments, h]

theorem called_notMem_asked (questions : List Question) (seen : ResolverCall) :
    .called seen ∉ questions.map Mark.asked := by
  intro h
  obtain ⟨question, -, hmark⟩ := List.mem_map.1 h
  cases hmark

section
variable {inForce : InForce} {layer : LayerId}
  (hfield : (inForce layer).field? field.coordinate = some field)
include hfield

theorem isRefused (h : field.checkArguments call.arguments = (arguments, found))
    (hfound : found ++ Question.rejections (field.questions { call with arguments }) ≠ []) :
    IsRefused inForce layer field call { call with arguments }
      (found ++ Question.rejections (field.questions { call with arguments })) := by
  obtain ⟨first, rest, hfailures⟩ := List.exists_cons_of_ne_nil hfound
  constructor
  · intro m _ inner
    rw [resolve_guarded hfield inner h, hfailures]
    rfl
  · intro resolver
    rw [guard_marking _ h, hfailures]
    rfl

theorem goesThrough_of_passed
    (h : field.validator.validate (.object call.arguments) = .ok (.object arguments))
    (hpasses : ∀ question ∈ field.questions { call with arguments }, question.answer = .ok ()) :
    GoesThrough inForce layer field call { call with arguments } where
  resolve inner := by
    rw [resolve_guarded hfield inner (checkArguments_ok h), Question.rejections_eq_nil hpasses]
    rfl
  marks resolver := by
    rw [guard_marking _ (checkArguments_ok h), Question.rejections_eq_nil hpasses]
    rfl

theorem isRefused_of_rejected
    (h : field.validator.validate (.object call.arguments) = .ok (.object arguments))
    {question : Question} (hquestion : question ∈ field.questions { call with arguments })
    (hanswer : question.answer ≠ .ok ()) :
    IsRefused inForce layer field call { call with arguments }
      (Question.rejections (field.questions { call with arguments })) := by
  cases hrejection : question.answer with
  | ok => exact absurd hrejection hanswer
  | error rejection =>
    exact isRefused hfield (checkArguments_ok h) (Question.rejections_ne_nil hquestion hrejection)

theorem isRefused_of_invalid {failures : List ValueFailure}
    (h : field.validator.validate (.object call.arguments) = .error failures) :
    IsRefused inForce layer field call call
      (failures.map .ofSchema ++ Question.rejections (field.questions call)) := by
  refine isRefused hfield (checkArguments_error h) fun hnil => ?_
  rw [List.append_eq_nil_iff, List.map_eq_nil_iff] at hnil
  exact field.validator.validate_ne_nil (hnil.1 ▸ h)

theorem called_iff (resolver : ResolverCall → Resolution) (seen : ResolverCall) :
    .called seen ∈ ((field.guard marking (noting resolver) call).run []).2 ↔
      ∃ arguments, field.validator.validate (.object call.arguments) = .ok (.object arguments) ∧
        (∀ question ∈ field.questions { call with arguments }, question.answer = .ok ()) ∧
          seen = { call with arguments } := by
  constructor
  · intro hcalled
    rcases field.checkArguments_cases call.arguments with ⟨arguments, h, -⟩ | ⟨failures, h, -⟩
    · by_cases hanswers : ∀ question ∈ field.questions { call with arguments }, question.answer = .ok ()
      · rw [(goesThrough_of_passed hfield h hanswers).marks] at hcalled
        rcases List.mem_append.1 hcalled with hcalled | hcalled
        · exact absurd hcalled (called_notMem_asked _ _)
        · cases List.mem_singleton.1 hcalled
          exact ⟨arguments, h, hanswers, rfl⟩
      -- otherwise all marks are of questions
      · simp only [not_forall] at hanswers
        obtain ⟨question, hquestion, hanswer⟩ := hanswers
        rw [(isRefused_of_rejected hfield h hquestion hanswer).marks] at hcalled
        exact absurd hcalled (called_notMem_asked _ _)
    · rw [(isRefused_of_invalid hfield h).marks] at hcalled
      exact absurd hcalled (called_notMem_asked _ _)
  · rintro ⟨arguments, h, hanswers, rfl⟩
    rw [(goesThrough_of_passed hfield h hanswers).marks]
    exact List.mem_append.2 (.inr (List.mem_singleton.2 rfl))

end

/-- What the guard of a field makes of a call. -/
structure Verdict (inForce : InForce) (layer : LayerId) (field : FieldValidator) (call : ResolverCall) :
    Prop where
  /-- What is accepted has the names that were supplied. -/
  names : ∀ answer, field.validator.validate (.object call.arguments) = .ok answer →
    ∃ arguments, answer = .object arguments ∧ Members.names arguments = Members.names call.arguments
  /-- Accepted arguments that no function rejects: the call goes through. -/
  passed : ∀ arguments, field.validator.validate (.object call.arguments) = .ok (.object arguments) →
    (∀ question ∈ field.questions { call with arguments }, question.answer = .ok ()) →
      GoesThrough inForce layer field call { call with arguments }
  /-- Accepted arguments of which functions reject some. -/
  rejected : ∀ arguments, field.validator.validate (.object call.arguments) = .ok (.object arguments) →
    ∀ question ∈ field.questions { call with arguments }, question.answer ≠ .ok () →
      IsRefused inForce layer field call { call with arguments }
        (Question.rejections (field.questions { call with arguments }))
  /-- Arguments that the validator refuses: functions are asked about those supplied. -/
  invalid : ∀ failures, field.validator.validate (.object call.arguments) = .error failures →
    IsRefused inForce layer field call call
      (failures.map (fun failure =>
          ⟨ArgumentFailure.argumentOf failure.path, Pointer.text failure.path, failure.message⟩) ++
        Question.rejections (field.questions call))
  /-- When the resolver behind the guard is called, and with what. -/
  called : ∀ resolver seen, .called seen ∈ ((field.guard marking (noting resolver) call).run []).2 ↔
    ∃ arguments, field.validator.validate (.object call.arguments) = .ok (.object arguments) ∧
      (∀ question ∈ field.questions { call with arguments }, question.answer = .ok ()) ∧
        seen = { call with arguments }
  /-- The run that was looked at is that of the guard. -/
  effects : ∀ {m : Type → Type} [Monad m] [LawfulMonad m] (inner : Resolver m),
    field.guard (fun question => pure question.answer) (inner.resolve inForce) call =
      (Resolver.guarded layer field.coordinate inner).resolve inForce call

theorem verdict {inForce : InForce} {layer : LayerId}
    (hfield : (inForce layer).field? field.coordinate = some field) (call : ResolverCall) :
    Verdict inForce layer field call where
  names _ h := field.validator.validate_object h
  passed _ h := goesThrough_of_passed hfield h
  rejected _ h _ hquestion hanswer := isRefused_of_rejected hfield h hquestion hanswer
  invalid _ h := isRefused_of_invalid hfield h
  called := called_iff hfield
  effects inner := guard_quietly hfield inner call

end FieldValidator

namespace Registry

/-- The guard of a compiled field asks the functions of `judges`, in the order in which the field declares
its arguments, and lets a call through as its validator and these functions say. -/
theorem guard_verdict {options : BackendOptions} {hook : Option InferenceHook} {overrides : Overrides}
    {graph : TypeGraph} {registry : Registry} {coordinate : Coordinate} {compiled : FieldValidator}
    (inForce : InForce) (layer : LayerId)
    (hcompile : compile options hook overrides graph = .ok registry)
    (hinForce : (inForce layer).fields = registry.fields)
    (hfield : registry.field? coordinate = some compiled) :
    compiled.coordinate = coordinate ∧
      (∃ type field, graph.TakesArguments type field ∧ coordinate = ⟨type.name, field.name⟩ ∧
        compiled.functions = overrides.judges type field) ∧
      ∀ call, compiled.Verdict inForce layer call := by
  obtain ⟨hmem, rfl⟩ := field?_eq_some hfield
  refine ⟨rfl, functions_of_compile hcompile hmem, fun call => FieldValidator.verdict ?_ call⟩
  rwa [field?, hinForce, ← field?]

/-- A field with an argument of a known type, and with tags. -/
def accountDocument : List TypeDefinition :=
  [⟨"Query", [], .object [⟨"account",
    [⟨"id", .named "ID" true, []⟩, ⟨"tags", .list (.named "String" true) false, []⟩],
    .named "String" false, []⟩]⟩]

def noTags : ValidationFunction where
  judge question :=
    match question.value with
    | .array (_ :: _) => .error ⟨"is not wanted", some "/0"⟩
    | _ => .ok ()

/-- The function judges the tags. -/
def accountOverrides : Overrides where
  arguments := [(⟨"Query", "account", "tags"⟩, .function noTags)]

theorem guard_verdict_account : ∃ registry compiled,
    compile (.native {}) none accountOverrides (.ofDefinitions accountDocument) = .ok registry ∧
      registry.field? ⟨"Query", "account"⟩ = some compiled ∧
      compiled.functions.map (·.site.coordinate.argumentName) = ["tags"] ∧
      ∀ call, compiled.Verdict (fun _ => registry) 0 call := by
  have hrun : ((compile (.native {}) none accountOverrides (.ofDefinitions accountDocument)).toOption.any
      fun registry => (registry.field? ⟨"Query", "account"⟩).any fun compiled =>
        compiled.functions.map (·.site.coordinate.argumentName) = ["tags"]) = true := by
    decide +kernel
  obtain ⟨registry, hcompile, hregistry⟩ := exists_ok_of_any hrun
  obtain ⟨compiled, hfield, hfunctions⟩ := (Option.any_eq_true _ _).1 hregistry
  have hverdict := guard_verdict (fun _ => registry) 0 hcompile rfl hfield
  exact ⟨registry, compiled, hcompile, hfield, of_decide_eq_true hfunctions, hverdict.2.2⟩

end Registry

end ArgGuard
