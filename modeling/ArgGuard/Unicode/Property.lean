import ArgGuard.Unicode.CharSet
import ArgGuard.Unicode.PropertyTable

/-!
# Properties of characters

Some properties have a table of their own; the others follow from general categories and from the
tables. `Property.set?` finds either kind by name.
-/

namespace ArgGuard.Unicode.Property

/-- The characters of a property that has a table. -/
def stored? (name : String) : Option CharSet :=
  (rows.find? (·.1.contains name)).map fun row => .ofLines row.2

/-- The characters of a table, none where there is no such table. -/
def stored (name : String) : CharSet := (stored? name).getD .none

/-- Small letters and what counts as such. -/
def lowercase : CharSet := .union (.ofCategories [.lowercaseLetter]) (stored "otherlowercase")

/-- Capital letters and what counts as such. -/
def uppercase : CharSet := .union (.ofCategories [.uppercaseLetter]) (stored "otheruppercase")

def alphabetic : CharSet :=
  .unionOf [lowercase, uppercase, stored "otheralphabetic",
    .ofCategories [.titlecaseLetter, .modifierLetter, .otherLetter, .letterNumber]]

/-- Characters that have a case. -/
def cased : CharSet := .unionOf [lowercase, uppercase, .ofCategories [.titlecaseLetter]]

/-- Marks and punctuation between letters, which casing looks past. -/
def caseIgnorable : CharSet :=
  .union
    (.ofCategories [.nonspacingMark, .enclosingMark, .format, .modifierLetter, .modifierSymbol])
    (.ofLines ["27 2E 3A B7 387 55F 5F4 2018-2019 2024 2027 FE13 FE52 FE55 FF07 FF0E FF1A"])

/-- Characters of formulas. -/
def math : CharSet := .union (.ofCategories [.mathSymbol]) (stored "othermath")

/-- Characters that join the one before them. -/
def graphemeExtend : CharSet :=
  .union (.ofCategories [.nonspacingMark, .enclosingMark]) (stored "othergraphemeextend")

def assigned : CharSet := .ofCategories Category.all

/-- Characters that others can join. -/
def graphemeBase : CharSet :=
  .difference assigned <| .union graphemeExtend <|
    .ofCategories [.control, .format, .privateUse, .lineSeparator, .paragraphSeparator]

def idStart : CharSet :=
  .difference
    (.union (.ofCategories (Category.letters ++ [.letterNumber])) (stored "otheridstart"))
    (.union (stored "patternsyntax") (stored "patternwhitespace"))

/-- Characters with which an identifier goes on. -/
def idContinue : CharSet :=
  .unionOf [idStart, stored "otheridcontinue",
    .ofCategories [.nonspacingMark, .spacingMark, .decimalNumber, .connectorPunctuation]]

/-- Characters that break off identifiers when they are taken apart by compatibility. -/
def unstable : CharSet := .ofLines ["37A 309B-309C FC5E-FC63 FDFA-FDFB FE70 FE72-FE7E/2"]

/-- Characters with which an identifier starts in every normal form. -/
def stableStart : CharSet :=
  .difference idStart (.union unstable (.ofLines ["E33 EB3 FF9E-FF9F"]))

/-- Characters with which an identifier goes on in every normal form. -/
def stableContinue : CharSet := .difference idContinue unstable

def digit : CharSet := .ofCategories [.decimalNumber]

def blank : CharSet := .ranges Blank.ranges

/-- Characters of words: of alphabets, marks, digits, connectors and the two joiners. -/
def word : CharSet :=
  .unionOf [alphabetic, stored "joincontrol",
    .ofCategories (Category.marks ++ [.decimalNumber, .connectorPunctuation])]

/-- Letters and numbers of every script. -/
def alphanumeric : CharSet := .union alphabetic (.ofCategories Category.numbers)

/-- The characters of a property that follows from others. -/
def derived? (name : String) : Option CharSet :=
  if ["lowercase", "lower"].contains name then some lowercase
  else if ["uppercase", "upper"].contains name then some uppercase
  else if ["alphabetic", "alpha"].contains name then some alphabetic
  else if name = "cased" then some cased
  else if ["caseignorable", "ci"].contains name then some caseIgnorable
  else if name = "math" then some math
  else if ["graphemeextend", "grext"].contains name then some graphemeExtend
  else if ["graphemebase", "grbase"].contains name then some graphemeBase
  else if ["idstart", "ids"].contains name then some idStart
  else if ["idcontinue", "idc"].contains name then some idContinue
  else if ["xidstart", "xids"].contains name then some stableStart
  else if ["xidcontinue", "xidc"].contains name then some stableContinue
  else none

/-- The characters of a property. -/
def set? (name : String) : Option CharSet := derived? name <|> stored? name

end ArgGuard.Unicode.Property
