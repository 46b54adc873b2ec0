import JsonSchema.Text.Property

/-!
# Where text may be parted

The classes by which text is parted into graphemes, words and sentences. A character outside the
classes of its kind has no name there.
-/

namespace JsonSchema.Text.Segment

open Property

/-- The set without the others. -/
def but (s : CharSet) (others : List CharSet) : CharSet := s.diff (all others)

def carriageReturn : CharSet := .single '\r'
def lineFeed : CharSet := .single '\n'
def joiner : CharSet := .single '\u200d'
def spacingMark : CharSet := Category.set [.mc]
def format : CharSet := Category.set [.cf]

/-- Digits, and signs that are set like digits. -/
def number : CharSet :=
  (Category.set [.nd]).union (.ofText "600-605 66B-66C 6DD 890-891 8E2 110BD 110CD")

def fullStops : CharSet := .ofText "2E 2024 FE52 FF0E"

/-! ## Graphemes -/

def leadingConsonant : CharSet := .ofText "1100-115F A960-A97C"
def vowel : CharSet := .ofText "1160-11A7 D7B0-D7C6 16D63 16D67-16D6A"
def trailingConsonant : CharSet := .ofText "11A8-11FF D7CB-D7FB"

def syllable : CharSet := .range '\uac00' '\ud7a3'

/-- Every twenty-eighth syllable ends in its vowel. -/
def openSyllable : CharSet :=
  .ofList ((List.range 399).map fun i => Char.ofNat (0xAC00 + 28 * i))

def graphemeExtender : CharSet := (graphemeExtend.union emojiModifier).diff joiner

def prepended : CharSet :=
  prependedMark.union
    (.ofText "D4E 111C2-111C3 113D1 1193F 11941 11A3A 11A84-11A89 11D46 11F02")

/-- Spacing marks after which a grapheme may end. -/
def looseMark : CharSet :=
  .ofText "102B 102C 1038 1062-1064 1067-106D 1083 1087-108C 108F 109A-109C 1A61 1A63 1A64 AA7B
    AA7D 11720 11721"

/-- Unassigned characters are controls if they are to be ignored. -/
def graphemeControl : CharSet :=
  but (all [Category.set [.zl, .zp, .cc], format, ignorable.inter (Category.set [.cn])])
    [carriageReturn, lineFeed, joinControl, prepended, graphemeExtender]

def graphemeClasses : List (List String × CharSet) :=
  [(["cr"], carriageReturn),
   (["lf"], lineFeed),
   (["zwj"], joiner),
   (["control", "cn"], graphemeControl),
   (["extend", "ex"], graphemeExtender),
   (["prepend", "pp"], prepended),
   (["regionalindicator", "ri"], regionalIndicator),
   (["spacingmark", "sm"],
     but (spacingMark.union (.ofText "E33 EB3")) [graphemeExtender, looseMark]),
   (["l"], leadingConsonant),
   (["v"], vowel),
   (["t"], trailingConsonant),
   (["lv"], openSyllable),
   (["lvt"], syllable.diff openSyllable)]

/-! ## Words -/

def wordExtender : CharSet := (all [graphemeExtend, spacingMark, emojiModifier]).diff joiner

def katakana : CharSet := (script "Kana").union (.ofText "3031-3035 309B 309C 30A0 30FC FF70")

def hebrewLetter : CharSet := (script "Hebr").inter (Category.set [.lo])

def wordNumber : CharSet := (number.union (.ofText "FF10-FF19")).diff (.ofText "66C")

/-- Letters of alphabets and signs that are used like them; not ideographs, nor letters of scripts
that are written without spaces between words. -/
def alphabetLetter : CharSet :=
  but
    (all [alphabetic,
      .ofText "2C2-2C5 2D2-2D7 2DE 2DF 2E5-2EB 2ED 2EF-2FF 55A 55B 55C 55E 58A 5F3 70F
        A708-A716 A720 A721 A789 A78A AB5B"])
    [ideographic, katakana, .ofText southEastText, script "Hira", wordExtender, hebrewLetter,
      wordNumber, joiner]

def wordClasses : List (List String × CharSet) :=
  [(["cr"], carriageReturn),
   (["lf"], lineFeed),
   (["zwj"], joiner),
   (["newline", "nl"], .ofText "B-C 85 2028-2029"),
   (["extend"], wordExtender),
   (["regionalindicator", "ri"], regionalIndicator),
   (["format", "fo"], but format [.ofText "200B-200D", wordExtender, number, alphabetLetter]),
   (["katakana", "ka"], katakana),
   (["hebrewletter", "hl"], hebrewLetter),
   (["doublequote", "dq"], .single '"'),
   (["singlequote", "sq"], .single '\''),
   (["midnumlet", "mb"], midNumLet),
   (["midletter", "ml"], midLetter),
   (["midnum", "mn"],
     .ofText "2C 3B 37E 589 60C-60D 66C 7F8 2044 FE10 FE14 FE50 FE54 FF0C FF1B"),
   (["numeric", "nu"], wordNumber),
   (["extendnumlet", "ex"], (Category.set [.pc]).union (.ofText "202F")),
   (["wsegspace"], (Category.set [.zs]).diff (.ofText "A0 2007 202F")),
   (["aletter", "le"], alphabetLetter)]

/-! ## Sentences -/

def sentenceExtender : CharSet := all [graphemeExtend, spacingMark, joiner]

def separator : CharSet := .ofText "85 2028-2029"

/-- Georgian letters count as having no case. -/
def sentenceLower : CharSet :=
  but lowercase [graphemeExtend, .ofText "10D0-10FA 10FD-10FF"]

def sentenceUpper : CharSet := (uppercase.union titlecase).diff (.ofText "1C90-1CBA 1CBD-1CBF")

def sentenceEnd : CharSet := sentenceTerminal.diff fullStops

def quotation : CharSet :=
  (Category.set [.pi, .pf]).union
    (.ofText "22 27 275B-2760 2E00-2E01 2E06-2E08 2E0B 1F676-1F678")

def sentenceClasses : List (List String × CharSet) :=
  [(["cr"], carriageReturn),
   (["lf"], lineFeed),
   (["sep", "se"], separator),
   (["extend", "ex"], sentenceExtender),
   (["format", "fo"], but format [joinControl, sentenceExtender, number]),
   (["sp"], but whiteSpace [separator, carriageReturn, lineFeed]),
   (["lower", "lo"], sentenceLower),
   (["upper", "up"], sentenceUpper),
   (["oletter", "le"],
     but (alphabetic.union (.ofText "5F3"))
       [sentenceLower, sentenceUpper, sentenceExtender, number]),
   (["numeric", "nu"], number.union (.ofText "FF10-FF19")),
   (["aterm", "at"], fullStops),
   (["scontinue", "sc"],
     .ofText "2C-2D 3A-3B 37E 55D 60C-60D 7F8 1802 1808 2013-2014 3001 FE10-FE11 FE13-FE14
       FE31-FE32 FE50-FE51 FE54-FE55 FE58 FE63 FF0C-FF0D FF1A-FF1B FF64"),
   (["sterm", "st"], sentenceEnd),
   (["close", "cl"],
     but ((Category.set [.ps, .pe]).union quotation) [.ofText "5F3", fullStops, sentenceEnd])]

end JsonSchema.Text.Segment

namespace JsonSchema.Text.Property

def lookup? (name : String) (table : List (List String × CharSet)) : Option CharSet :=
  (table.find? (·.1.contains name)).map (·.2)

/-- The set of a name alone: of a property, of a category or of a script. -/
def named? (name : String) : Option CharSet :=
  let name := normalName name
  ((lookup? name byName).or (categoryNamed? name)).or ((scriptCode? name).map script)

/-- The set of a name and a value. -/
def valued? (name value : String) : Option CharSet :=
  let value := normalName value
  match normalName name with
  | "gc" | "generalcategory" => categoryNamed? value
  | "sc" | "script" => (scriptCode? value).map script
  | "scx" | "scriptextensions" => (scriptCode? value).map scriptUse
  | "age" => age? value
  | "gcb" | "graphemeclusterbreak" => lookup? value Segment.graphemeClasses
  | "wb" | "wordbreak" => lookup? value Segment.wordClasses
  | "sb" | "sentencebreak" => lookup? value Segment.sentenceClasses
  | _ => none

end JsonSchema.Text.Property
