import ArgGuard.Unicode.Age
import ArgGuard.Unicode.Segmentation

/-!
# Names of properties

A class of a pattern names a property, or a property and its value. Names are compared without
case, blanks, hyphens and underscores, and `is` in front of a name says nothing.
-/

namespace ArgGuard.Unicode.PropertyName

/-- A name without case, separators and what is not ASCII. -/
def plain (name : List Char) : List Char :=
  (name.filter fun c => c.toNat < 0x80 && c != ' ' && c != '-' && c != '_').map Char.toLower

/-- A name as it is compared. What `is` in front of `c` leaves is a name of its own. -/
def loose (name : String) : String :=
  let text := name.toList
  if (text.take 2).map Char.toLower == ['i', 's'] then
    let rest := plain (text.drop 2)
    String.ofList (if rest == ['c'] then ['i', 's', 'c'] else rest)
  else String.ofList (plain text)

/-- The characters of a general category or of a family of them. -/
def categorySet? (name : String) : Option CharSet :=
  if name = "any" then some (.complement .none)
  else if name = "assigned" then some Property.assigned
  else if name = "ascii" then some .ascii
  else if name = "cn" ∨ name = "unassigned" then some (.complement Property.assigned)
  else if name = "c" ∨ name = "other" then
    some (.union (.ofCategories [.control, .format, .privateUse]) (.complement Property.assigned))
  else (Category.ofName? name).map CharSet.ofCategories

def scriptSet? (name : String) : Option CharSet := (Script.ranges? name).map CharSet.ranges

/-- The characters used in a script: its own but for those with extensions, and those that have it
among their extensions. -/
def usedInScript? (name : String) : Option CharSet :=
  (Script.row? name).map fun row =>
    .union (.ranges (Script.extensionRanges row))
      (.difference (.ofLines row.2) (.ranges Script.extendedRanges))

def classSet? (classes : List (List String × CharSet)) (name : String) : Option CharSet :=
  (classes.find? (·.1.contains name)).map (·.2)

/-- The characters that one name stands for: a property, a general category or a script. Three
short names are categories though they abbreviate other properties too. -/
def set? (name : String) : Option CharSet :=
  let name := loose name
  let property := if ["cf", "sc", "lc"].contains name then none else Property.set? name
  property <|> categorySet? name <|> scriptSet? name

/-- The characters for which a property has a value. -/
def valueSet? (name value : String) : Option CharSet :=
  let name := loose name
  let value := loose value
  if ["generalcategory", "gc"].contains name then categorySet? value
  else if ["script", "sc"].contains name then scriptSet? value
  else if ["scriptextensions", "scx"].contains name then usedInScript? value
  else if name = "age" then (Age.ranges? value).map CharSet.ranges
  else if ["graphemeclusterbreak", "gcb"].contains name then
    classSet? Segmentation.graphemeClasses value
  else if ["wordbreak", "wb"].contains name then classSet? Segmentation.wordClasses value
  else if ["sentencebreak", "sb"].contains name then
    classSet? Segmentation.sentenceClasses value
  else none

end ArgGuard.Unicode.PropertyName
