import ArgGuard.Unicode.Property
import ArgGuard.Unicode.Script

/-!
# Segmentation

The classes of characters by which a text is cut into graphemes, words and sentences. Most follow
from categories and properties; a few have tables.
-/

namespace ArgGuard.Unicode.Segmentation

def lineFeed : CharSet := .single 0x0A

def carriageReturn : CharSet := .single 0x0D

/-- The joiner without width. -/
def joiner : CharSet := .single 0x200D

def regional : CharSet := Property.stored "regionalindicator"

/-- Signs that enclose the digits behind them. -/
def prepended : CharSet := Property.stored "prependedconcatenationmark"

/-- What joins the character before it within a grapheme. -/
def graphemeExtend : CharSet :=
  .union Property.graphemeExtend (Property.stored "emojimodifier")

/-- Signs that start a grapheme. -/
def graphemePrepend : CharSet :=
  .union prepended
    (.ofLines ["D4E 111C2-111C3 113D1 1193F 11941 11A3A 11A84-11A89 11D46 11F02"])

/-- Marks with a width that join the character before them. -/
def graphemeSpacing : CharSet :=
  .union (.ofLines ["E33 EB3"]) <|
    .difference (.ofCategories [.spacingMark]) <| .union graphemeExtend <|
      .ofLines
        ["102B-102C 1038 1062-1064 1067-106D 1083 1087-108C 108F 109A-109C 1A61 1A63-1A64 AA7B",
         "AA7D 11720-11721"]

/-- Controls and the like, which stand alone. -/
def graphemeControl : CharSet :=
  .difference
    (.union (.ofCategories [.lineSeparator, .paragraphSeparator, .control, .format])
      (.difference (Property.stored "defaultignorablecodepoint") Property.assigned))
    (.unionOf [carriageReturn, lineFeed, .single 0x200C, joiner, prepended, graphemeExtend])

/-- Syllables of Hangul without a final consonant. -/
def openSyllables : Ranges :=
  (List.range 399).map fun index => (0xAC00 + 28 * index, 0xAC00 + 28 * index)

def graphemeClasses : List (List String × CharSet) :=
  [(["control", "cn"], graphemeControl),
   (["cr"], carriageReturn),
   (["extend", "ex"], graphemeExtend),
   (["l"], .ofLines ["1100-115F A960-A97C"]),
   (["lf"], lineFeed),
   (["lv"], .ranges openSyllables),
   (["lvt"], .difference (.ranges [(0xAC00, 0xD7A3)]) (.ranges openSyllables)),
   (["prepend", "pp"], graphemePrepend),
   (["regionalindicator", "ri"], regional),
   (["spacingmark", "sm"], graphemeSpacing),
   (["t"], .ofLines ["11A8-11FF D7CB-D7FB"]),
   (["v"], .ofLines ["1160-11A7 16D63 16D67-16D6A D7B0-D7C6"]),
   (["zwj"], joiner)]

def script (name : String) : CharSet := .ranges ((Script.ranges? name).getD [])

/-- What joins the character before it within a word. -/
def wordExtend : CharSet :=
  .difference (.union graphemeExtend (.ofCategories [.spacingMark])) joiner

def wordFormat : CharSet :=
  .difference (.ofCategories [.format])
    (.unionOf [.single 0x200B, .single 0x200C, joiner, prepended, graphemeExtend])

def wordHebrew : CharSet := .inter (script "hebrew") (.ofCategories [.otherLetter])

/-- Katakana and what is written among them. -/
def wordKatakana : CharSet :=
  .ofLines
    ["3031-3035 309B-309C 30A0-30FA 30FC-30FF 31F0-31FF 32D0-32FE 3300-3357 FF66-FF9D 1AFF0-1AFF3",
     "1AFF5-1AFFB 1AFFD-1AFFE 1B000 1B120-1B122 1B155 1B164-1B167"]

/-- Digits within words. -/
def wordNumeric : CharSet :=
  .union (.ofCategories [.decimalNumber]) <| .union (.single 0x66B) <|
    .difference prepended (.single 0x70F)

/-- The scripts that write words without blanks. -/
def unspacedScripts : CharSet :=
  .unionOf
    (["thai", "lao", "myanmar", "khmer", "taile", "newtailue", "taitham", "taiviet", "ahom",
      "hiragana"].map script)

/-- Letters of the scripts that write blanks between words. -/
def wordLetter : CharSet :=
  .difference
    (.union Property.alphabetic
      (.ofLines
        ["2C2-2C5 2D2-2D7 2DE-2DF 2E5-2EB 2ED 2EF-2FF 55A-55C 55E 58A 5F3 70F A708-A716",
         "A720-A721 A789-A78A AB5B"]))
    (.unionOf [Property.stored "ideographic", wordKatakana, unspacedScripts, graphemeExtend,
      .ofCategories [.spacingMark], wordHebrew])

def wordClasses : List (List String × CharSet) :=
  [(["aletter", "le"], wordLetter),
   (["cr"], carriageReturn),
   (["doublequote", "dq"], .single 0x22),
   (["extend"], wordExtend),
   (["extendnumlet", "ex"], .ofLines ["5F 202F 203F-2040 2054 FE33-FE34 FE4D-FE4F FF3F"]),
   (["format", "fo"], wordFormat),
   (["hebrewletter", "hl"], wordHebrew),
   (["katakana", "ka"], wordKatakana),
   (["lf"], lineFeed),
   (["midletter", "ml"], .ofLines ["3A B7 387 55F 5F4 2027 FE13 FE55 FF1A"]),
   (["midnum", "mn"],
    .ofLines ["2C 3B 37E 589 60C-60D 66C 7F8 2044 FE10 FE14 FE50 FE54 FF0C FF1B"]),
   (["midnumlet", "mb"], .ofLines ["2E 2018-2019 2024 FE52 FF07 FF0E"]),
   (["newline", "nl"], .ofLines ["B-C 85 2028-2029"]),
   (["numeric", "nu"], wordNumeric),
   (["regionalindicator", "ri"], regional),
   (["singlequote", "sq"], .single 0x27),
   (["wsegspace"], .ofLines ["20 1680 2000-2006 2008-200A 205F 3000"]),
   (["zwj"], joiner)]

/-- What joins the character before it within a sentence. -/
def sentenceExtend : CharSet :=
  .unionOf [Property.graphemeExtend, .ofCategories [.spacingMark], joiner]

def sentenceFormat : CharSet :=
  .difference (.ofCategories [.format])
    (.unionOf [.single 0x200C, joiner, prepended, graphemeExtend])

/-- Brackets and quotation marks around sentences. -/
def sentenceClose : CharSet :=
  .ofLines
    ["22 27-29 5B 5D 7B 7D AB BB F3A-F3D 169B-169C 2018-201F 2039-203A 2045-2046 207D-207E",
     "208D-208E 2308-230B 2329-232A 275B-2760 2768-2775 27C5-27C6 27E6-27EF 2983-2998 29D8-29DB",
     "29FC-29FD 2E00-2E0D 2E1C-2E1D 2E20-2E29 2E42 2E55-2E5C 3008-3011 3014-301B 301D-301F",
     "FD3E-FD3F FE17-FE18 FE35-FE44 FE47-FE48 FE59-FE5E FF08-FF09 FF3B FF3D FF5B FF5D FF5F-FF60",
     "FF62-FF63 1F676-1F678"]

/-- Small letters within sentences. -/
def sentenceLower : CharSet :=
  .difference Property.lowercase (.union Property.graphemeExtend (.ofLines ["10D0-10FA 10FD-10FF"]))

/-- Capital letters within sentences. -/
def sentenceUpper : CharSet :=
  .difference (.union (.ofCategories [.titlecaseLetter]) Property.uppercase)
    (.ofLines ["1C90-1CBA 1CBD-1CBF"])

def sentenceLetter : CharSet :=
  .difference (.union Property.alphabetic (.single 0x5F3))
    (.unionOf [sentenceLower, sentenceUpper, sentenceExtend])

def sentenceClasses : List (List String × CharSet) :=
  [(["aterm", "at"], .ofLines ["2E 2024 FE52 FF0E"]),
   (["close", "cl"], sentenceClose),
   (["cr"], carriageReturn),
   (["extend", "ex"], sentenceExtend),
   (["format", "fo"], sentenceFormat),
   (["lf"], lineFeed),
   (["lower", "lo"], sentenceLower),
   (["numeric", "nu"],
    .unionOf [.ofCategories [.decimalNumber], .ranges [(0x66B, 0x66C)], prepended]),
   (["oletter", "le"], sentenceLetter),
   (["scontinue", "sc"],
    .ofLines
      ["2C-2D 3A-3B 37E 55D 60C-60D 7F8 1802 1808 2013-2014 3001 FE10-FE11 FE13-FE14 FE31-FE32",
       "FE50-FE51 FE54-FE55 FE58 FE63 FF0C-FF0D FF1A-FF1B FF64"]),
   (["sep", "se"], .ofLines ["85 2028-2029"]),
   (["sp"], .ofLines ["9 B-C 20 A0 1680 2000-200A 202F 205F 3000"]),
   (["sterm", "st"],
    .difference (Property.stored "sentenceterminal") (.ofLines ["2E 2024 FE52 FF0E"])),
   (["upper", "up"], sentenceUpper)]

end ArgGuard.Unicode.Segmentation
