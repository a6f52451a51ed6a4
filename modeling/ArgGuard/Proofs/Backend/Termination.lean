import ArgGuard.Proofs.JsonSchema.Evaluation
import ArgGuard.Proofs.Shape.Evaluation

/-!
# References do not keep a validator busy for ever

Units of the native dialect and definitions of JSON Schema may refer to one another in a circle. A check and
a coercion both come to an end all the same: `following_terminates` says that the rules by which they go
lead to exactly one outcome for every input, and that this is the one which `check` and `coerce` answer. It
also says what a chain of references comes to in a check: the unit at its end decides, a missing unit is one
failure, and a chain beyond the limit, which every circle is, is one failure too.
-/

namespace ArgGuard

open Shape JsonSchema.Coercion in
/-- `Checks` and `Coerces` have exactly one outcome, whatever refers to what. Under a chain of references
(`Leads`) a value has the outcome that it has under the unit at the end; a missing unit, or a chain beyond
`referenceLimit`, is its only failure. The parts of a value start with no reference followed. -/
theorem following_terminates (rules : CheckRules) (definitions : Members Json) :
    (∀ hops shape value, ∃! outcome, Checks rules hops shape value outcome) ∧
    (∀ shape value, Checks rules 0 shape value (check rules shape value)) ∧
    (∀ shape value, value ≠ Json.null →
      (∀ steps target, steps ≤ referenceLimit → Leads rules.table steps shape target →
        target.kind ≠ some .ref → check rules shape value = check rules target value) ∧
      (∀ steps last, steps ≤ referenceLimit → Leads rules.table steps shape last →
        last.kind = some .ref → Members.get? rules.table (last.target.getD "") = none →
          (check rules shape value).failures = [.here (.unresolved (last.target.getD ""))]) ∧
      (Endless rules.table shape →
        (∃ last, Leads rules.table referenceLimit shape last ∧
          (check rules shape value).failures = [.here (.tooDeep (last.target.getD ""))]) ∧
        ∀ answer, (check rules shape value).result ≠ .ok answer)) ∧
    (∀ steps count shape unit, Leads rules.table steps shape unit → Leads rules.table (count + 1) unit unit →
      Endless rules.table shape) ∧
    (∀ hops shape value converted outcome, value ≠ Json.null → shape.kind ≠ some .ref →
      taken rules shape value = some converted →
        (Checks rules hops shape value outcome ↔ outcome = compose shape (check rules) converted)) ∧
    (∀ depth schema value, ∃! answer, Coerces definitions depth schema value answer) ∧
    ∀ schema value, Coerces definitions 0 schema value (coerce definitions schema value) := by
  refine ⟨fun hops shape value => ?_, fun shape value => ?_, fun shape value hv => ⟨?_, ?_, ?_⟩, ?_, ?_, ?_, ?_⟩
  · exact ⟨checkAfter rules hops shape value, checks_iff.2 rfl, fun outcome h => checks_iff.1 h⟩
  · exact checks_iff.2 (checkAfter_zero shape value).symm
  · exact fun steps target hsteps hleads hdirect => check_of_leads hv hleads hsteps hdirect
  · exact fun steps last hsteps hleads hkind hmissing => failures_of_missing hv hleads hsteps hkind hmissing
  · intro hendless
    obtain ⟨last, hleads, hfailures⟩ := failures_of_endless hv hendless
    refine ⟨⟨last, hleads, hfailures⟩, fun answer haccepted => ?_⟩
    rw [(result_eq_ok_iff.1 haccepted).1] at hfailures
    cases hfailures
  · exact fun steps count shape unit hleads hcycle => endless_of_cycle hleads hcycle
  · exact fun hops shape value converted outcome hv hdirect htaken => checks_iff_of_taken hv hdirect htaken hops
  · exact fun depth schema value => ⟨_, coerces_iff.2 rfl, fun answer h => coerces_iff.1 h⟩
  · exact fun schema value => coerces_iff.2 rfl

def toUnit (name : String) : Shape where
  kind := some .ref
  target := some name

/-- Lists of things that refer to each other in a circle. -/
def circleRules : CheckRules where
  table := [("First", toUnit "Second"), ("Second", toUnit "First"),
    ("List", { kind := some .array, items := some (toUnit "First") })]
  coercing := true

/-- A definition that refers to itself from a branch of either kind and from its items. -/
def nestedDefinitions : Members Json :=
  let itself : Json := .object [("$ref", .string "#/definitions/Nested")]
  [("Nested", .object [("anyOf", .array [.object [("type", .string "null")], itself]),
    ("allOf", .array [itself, itself]), ("type", .string "string"), ("items", itself)])]

open Shape JsonSchema.Coercion in
/-- `First` and `Second` refer to each other, the unit of `Third` is missing, and the nested definition
gives lists an answer. -/
theorem following_terminates_circle :
    Json.bool true ≠ .null ∧
    Leads circleRules.table 1 (toUnit "First") (toUnit "Second") ∧
    Leads circleRules.table 2 (toUnit "Second") (toUnit "Second") ∧
    (∃ last, Leads circleRules.table 64 (toUnit "First") last ∧
      (check circleRules (toUnit "First") (.bool true)).failures = [.here (.tooDeep (last.target.getD ""))]) ∧
    (check circleRules (toUnit "Third") (.bool true)).failures = [.here (.unresolved "Third")] ∧
    check circleRules (toUnit "List") (.array [.bool true]) =
      check circleRules { kind := some .array, items := some (toUnit "First") } (.array [.bool true]) ∧
    ∃! answer, Coerces nestedDefinitions 0 (.object [("$ref", .string "#/definitions/Nested")])
      (.array [.ofInt 1]) answer := by
  have hfirst : Leads circleRules.table 1 (toUnit "First") (toUnit "Second") := .next rfl rfl (.here _)
  have hcircle : Leads circleRules.table 2 (toUnit "Second") (toUnit "Second") :=
    .next rfl rfl (.next rfl rfl (.here _))
  obtain ⟨-, -, hchains, hendless, -, hcoerces, -⟩ := following_terminates circleRules nestedDefinitions
  obtain ⟨-, -, hdeep⟩ := hchains (toUnit "First") (.bool true) (by simp)
  obtain ⟨-, hmissing, -⟩ := hchains (toUnit "Third") (.bool true) (by simp)
  obtain ⟨hlist, -, -⟩ := hchains (toUnit "List") (.array [.bool true]) (by simp)
  exact ⟨by simp, hfirst, hcircle, (hdeep (hendless 1 1 _ _ hfirst hcircle)).1,
    hmissing 0 _ (Nat.zero_le _) (.here _) rfl rfl,
    hlist 1 _ (by decide) (.next rfl rfl (.here _)) (by simp), hcoerces 0 _ _⟩

end ArgGuard
