import JsonSchema.Text.Category
import JsonSchema.Text.ScriptTable
import JsonSchema.Text.AgeTable

/-!
# Properties of characters

The sets of edition 16. Most are put together from categories and from other properties; `byName`
lists those that stand for themselves.
-/

namespace JsonSchema.Text.Property

def all (ss : List CharSet) : CharSet := .unions ss

/-! ## Letters and identifiers -/

def letters : CharSet := Category.set [.lu, .ll, .lt, .lm, .lo]
def alphabetic : CharSet := all [letters, Category.set [.nl], otherAlphabetic]
def joinControl : CharSet := .ofText "200C-200D"

/-- The two joining controls are word characters beside the letters, marks and digits. -/
def word : CharSet := all [alphabetic, Category.set [.mn, .mc, .me, .nd, .pc], joinControl]

def otherIdStart : CharSet := .ofText "1885-1886 2118 212E 309B-309C"
def otherIdContinue : CharSet := .ofText "B7 387 1369-1371 19DA 200C-200D 30FB FF65"

def idStart : CharSet :=
  (all [letters, Category.set [.nl], otherIdStart]).diff (.single '\u2e2f')

def idContinue : CharSet := all [idStart, Category.set [.mn, .mc, .nd, .pc], otherIdContinue]

/-- Characters that a compatible spelling would take out of an identifier. -/
def unstableContinue : CharSet :=
  .ofText "37A 309B-309C FC5E-FC63 FDFA-FDFB FE70 FE72 FE74 FE76 FE78 FE7A FE7C FE7E"

def unstableStart : CharSet := all [unstableContinue, .ofText "E33 EB3 FF9E-FF9F"]

def xidStart : CharSet := idStart.diff unstableStart
def xidContinue : CharSet := idContinue.diff unstableContinue

/-! ## Case -/

def otherUppercase : CharSet := .ofText otherUppercaseText
def otherLowercase : CharSet := .ofText otherLowercaseText
def uppercase : CharSet := (Category.set [.lu]).union otherUppercase
def lowercase : CharSet := (Category.set [.ll]).union otherLowercase
def titlecase : CharSet := Category.set [.lt]
def cased : CharSet := all [uppercase, lowercase, titlecase]

def changesLowered : CharSet := (uppercase.union titlecase).diff (.ofText neverLoweredText)
def changesRaised : CharSet := (lowercase.union titlecase).diff (.ofText neverRaisedText)

/-- Title case differs from upper case for digraphs and, in Georgian, does nothing. -/
def changesTitled : CharSet :=
  (changesRaised.union (.ofText "1C4 1C7 1CA 1F1")).diff
    (titlecase.union (.ofText "10D0-10FA 10FD-10FF"))

def changesMapped : CharSet := all [changesLowered, changesRaised, changesTitled]

/-- Cherokee folds to its capitals. -/
def changesFolded : CharSet :=
  (changesLowered.diff (.ofText "13A0-13F5")).union (.ofText foldedText)

/-! ## Marks, symbols and punctuation -/

def graphemeExtend : CharSet := (Category.set [.mn, .me]).union otherExtend

def graphemeBase : CharSet :=
  CharSet.all.diff ((Category.set [.cc, .cf, .cs, .co, .cn, .zl, .zp]).union graphemeExtend)

/-- The viramas, which join consonants. -/
def graphemeLink : CharSet :=
  .ofText "94D 9CD A4D ACD B4D BCD C4D CCD D3B-D3C D4D DCA E3A EBA F84 1039-103A 1714-1715 1734 17D2
    1A60 1B44 1BAA-1BAB 1BF2-1BF3 2D7F A806 A82C A8C4 A953 A9C0 AAF6 ABED 10A3F 11046 11070
    1107F 110B9 11133-11134 111C0 11235 112EA 1134D 113CE-113D0 11442 114C2 115BF 1163F 116B6
    1172B 11839 1193D-1193E 119E0 11A34 11A47 11A99 11C3F 11D44-11D45 11D97 11F41-11F42 1612F"

def otherMath : CharSet := .ofText otherMathText
def math : CharSet := (Category.set [.sm]).union otherMath
def dash : CharSet := (Category.set [.pd]).union (.ofText "2053 207B 208B 2212")
def whiteSpace : CharSet := .ofText "9-D 20 85 A0 1680 2000-200A 2028-2029 202F 205F 3000"
def variationSelector : CharSet := .ofText "180B-180D 180F FE00-FE0F E0100-E01EF"

def otherIgnorable : CharSet :=
  .ofText "34F 115F-1160 17B4-17B5 2065 3164 FFA0 FFF0-FFF8 E0000 E0002-E001F E0080-E00FF
    E01F0-E0FFF"

def prependedMark : CharSet := .ofText "600-605 6DD 70F 890-891 8E2 110BD 110CD"

/-- Controls of format that are shown are not ignorable. -/
def ignorable : CharSet :=
  (all [otherIgnorable, Category.set [.cf], variationSelector]).diff
    (all [prependedMark, .ofText "FFF9-FFFB 13430-1343F"])

def diacritic : CharSet := .ofText diacriticText
def sentenceTerminal : CharSet := .ofText sentenceTerminalText
def terminal : CharSet := sentenceTerminal.union (.ofText otherTerminalText)

def midLetter : CharSet := .ofText "3A B7 387 55F 5F4 2027 FE13 FE55 FF1A"
def midNumLet : CharSet := .ofText "2E 2018 2019 2024 FE52 FF07 FF0E"

/-- What may stand between letters without parting the cased ones. -/
def caseIgnorable : CharSet :=
  all [Category.set [.mn, .me, .cf, .lm, .sk], midLetter, midNumLet, .single '\'']

def compatMathStart : CharSet :=
  .ofText "2202 2207 221E 1D6C1 1D6DB 1D6FB 1D715 1D735 1D74F 1D76F 1D789 1D7A9 1D7C3"

def emojiPresentation : CharSet := .ofText emojiPresentationText
def emojiModifier : CharSet := .ofText "1F3FB-1F3FF"
def regionalIndicator : CharSet := .ofText "1F1E6-1F1FF"
def ideographic : CharSet := .ofText ideographicText
def asciiHexDigit : CharSet := .ofText "30-39 41-46 61-66"

/-- The last two code points of every plane, and thirty-two more. -/
def noncharacter : CharSet :=
  (CharSet.range '\ufdd0' '\ufdef').union <| .unions <| (List.range 17).map fun plane =>
    .range (Char.ofNat (plane * 0x10000 + 0xFFFE)) (Char.ofNat (plane * 0x10000 + 0xFFFF))

/-! ## Names -/

/-- Case, blanks, underscores and hyphens make no difference, and an `is` in front is dropped. -/
def normalName (name : String) : String :=
  let cs := name.toList.map Char.toLower
  let rest := match cs with
    | 'i' :: 's' :: rest => rest
    | _ => cs
  let kept := rest.filter fun c => c != ' ' && c != '_' && c != '-' && c.toNat < 128
  if rest.length < cs.length && kept == ['c'] then "isc" else String.ofList kept

def byName : List (List String × CharSet) :=
  [(["asciihexdigit", "ahex"], asciiHexDigit),
   (["alphabetic", "alpha"], alphabetic),
   (["bidicontrol", "bidic"], .ofText "61C 200E-200F 202A-202E 2066-2069"),
   (["bidimirrored", "bidim"], .ofText bidiMirroredText),
   (["caseignorable", "ci"], caseIgnorable),
   (["cased"], cased),
   (["changeswhencasefolded", "cwcf"], changesFolded),
   (["changeswhencasemapped", "cwcm"], changesMapped),
   (["changeswhenlowercased", "cwl"], changesLowered),
   (["changeswhentitlecased", "cwt"], changesTitled),
   (["changeswhenuppercased", "cwu"], changesRaised),
   (["dash"], dash),
   (["defaultignorablecodepoint", "di"], ignorable),
   (["deprecated", "dep"], .ofText "149 673 F77 F79 17A3-17A4 206A-206F 2329-232A E0001"),
   (["diacritic", "dia"], diacritic),
   (["emoji"], emojiPresentation.union (.ofText emojiOnlyText)),
   (["emojicomponent", "ecomp"],
     .ofText "23 2A 30-39 200D 20E3 FE0F 1F1E6-1F1FF 1F3FB-1F3FF 1F9B0-1F9B3 E0020-E007F"),
   (["emojimodifier", "emod"], emojiModifier),
   (["emojimodifierbase", "ebase"], .ofText emojiBaseText),
   (["emojipresentation", "epres"], emojiPresentation),
   (["extendedpictographic", "extpict"], .ofText pictographicText),
   (["extender", "ext"], .ofText extenderText),
   (["graphemebase", "grbase"], graphemeBase),
   (["graphemeextend", "grext"], graphemeExtend),
   (["graphemelink", "grlink"], graphemeLink),
   (["hexdigit", "hex"], asciiHexDigit.union (.ofText "FF10-FF19 FF21-FF26 FF41-FF46")),
   (["hyphen"], .ofText "2D AD 58A 1806 2010-2011 2E17 30FB FE63 FF0D FF65"),
   (["idcompatmathcontinue"],
     compatMathStart.union (.ofText "B2-B3 B9 2070 2074-207E 2080-208E")),
   (["idcompatmathstart"], compatMathStart),
   (["idcontinue", "idc"], idContinue),
   (["idstart", "ids"], idStart),
   (["idsbinaryoperator", "idsb"], .ofText "2FF0-2FF1 2FF4-2FFD 31EF"),
   (["idstrinaryoperator", "idst"], .ofText "2FF2-2FF3"),
   (["idsunaryoperator", "idsu"], .ofText "2FFE-2FFF"),
   (["ideographic", "ideo"], ideographic),
   (["joincontrol", "joinc"], joinControl),
   (["logicalorderexception", "loe"],
     .ofText "E40-E44 EC0-EC4 19B5-19B7 19BA AAB5-AAB6 AAB9 AABB-AABC"),
   (["lowercase", "lower"], lowercase),
   (["math"], math),
   (["modifiercombiningmark", "mcm"],
     .ofText "654-655 658 6DC 6E3 6E7-6E8 8CA-8CB 8CD-8CF 8D3 8F3"),
   (["noncharactercodepoint", "nchar"], noncharacter),
   (["otheralphabetic", "oalpha"], otherAlphabetic),
   (["otherdefaultignorablecodepoint", "odi"], otherIgnorable),
   (["othergraphemeextend", "ogrext"], otherExtend),
   (["otheridcontinue", "oidc"], otherIdContinue),
   (["otheridstart", "oids"], otherIdStart),
   (["otherlowercase", "olower"], otherLowercase),
   (["othermath", "omath"], otherMath),
   (["otheruppercase", "oupper"], otherUppercase),
   (["patternsyntax", "patsyn"], .ofText patternSyntaxText),
   (["patternwhitespace", "patws"], .ofText "9-D 20 85 200E-200F 2028-2029"),
   (["prependedconcatenationmark", "pcm"], prependedMark),
   (["quotationmark", "qmark"],
     .ofText "22 27 AB BB 2018-201F 2039-203A 2E42 300C-300F 301D-301F FE41-FE44 FF02 FF07
       FF62-FF63"),
   (["radical"], .ofText "2E80-2E99 2E9B-2EF3 2F00-2FD5"),
   (["regionalindicator", "ri"], regionalIndicator),
   (["sentenceterminal", "sterm"], sentenceTerminal),
   (["softdotted", "sd"], .ofText softDottedText),
   (["terminalpunctuation", "term"], terminal),
   (["unifiedideograph", "uideo"], ideographic.diff (.ofText compatibleIdeographText)),
   (["uppercase", "upper"], uppercase),
   (["variationselector", "vs"], variationSelector),
   (["whitespace", "wspace", "space"], whiteSpace),
   (["xidcontinue", "xidc"], xidContinue),
   (["xidstart", "xids"], xidStart)]

/-- Names of single categories and of groups of them. -/
def categoryNames : List (List String × List Category) :=
  [(["lu", "uppercaseletter"], [.lu]),
   (["ll", "lowercaseletter"], [.ll]),
   (["lt", "titlecaseletter"], [.lt]),
   (["lc", "casedletter"], [.lu, .ll, .lt]),
   (["lm", "modifierletter"], [.lm]),
   (["lo", "otherletter"], [.lo]),
   (["l", "letter"], [.lu, .ll, .lt, .lm, .lo]),
   (["mn", "nonspacingmark"], [.mn]),
   (["mc", "spacingmark"], [.mc]),
   (["me", "enclosingmark"], [.me]),
   (["m", "mark", "combiningmark"], [.mn, .mc, .me]),
   (["nd", "decimalnumber", "digit"], [.nd]),
   (["nl", "letternumber"], [.nl]),
   (["no", "othernumber"], [.no]),
   (["n", "number"], [.nd, .nl, .no]),
   (["pc", "connectorpunctuation"], [.pc]),
   (["pd", "dashpunctuation"], [.pd]),
   (["ps", "openpunctuation"], [.ps]),
   (["pe", "closepunctuation"], [.pe]),
   (["pi", "initialpunctuation"], [.pi]),
   (["pf", "finalpunctuation"], [.pf]),
   (["po", "otherpunctuation"], [.po]),
   (["p", "punctuation", "punct"], [.pc, .pd, .ps, .pe, .pi, .pf, .po]),
   (["sm", "mathsymbol"], [.sm]),
   (["sc", "currencysymbol"], [.sc]),
   (["sk", "modifiersymbol"], [.sk]),
   (["so", "othersymbol"], [.so]),
   (["s", "symbol"], [.sm, .sc, .sk, .so]),
   (["zs", "spaceseparator"], [.zs]),
   (["zl", "lineseparator"], [.zl]),
   (["zp", "paragraphseparator"], [.zp]),
   (["z", "separator"], [.zs, .zl, .zp]),
   (["cc", "control", "cntrl"], [.cc]),
   (["cf", "format"], [.cf]),
   (["co", "privateuse"], [.co]),
   (["cn", "unassigned"], [.cn]),
   (["c", "other"], [.cc, .cf, .cs, .co, .cn])]

def categoryNamed? (name : String) : Option CharSet :=
  match name with
  | "any" => some .all
  | "assigned" => some (Category.set [.cn]).compl
  | "ascii" => some (.range '\x00' '\x7f')
  | _ => (categoryNames.find? (·.1.contains name)).map fun e => Category.set e.2

/-! ## Scripts -/

def scriptTable : Steps String := .ofText some scriptRuns

/-- The scripts that use a character beside or in place of its own. -/
def scriptUseTable : Steps (List String) :=
  .ofText (fun s => some (if s = "-" then [] else s.splitOn "+")) scriptUses

/-- The short name of a script. -/
def scriptCode? (name : String) : Option String :=
  ((tokens scriptNames).map (·.splitOn "=")).findSome? fun names =>
    if names.any (normalName · == name) then names.head? else none

def script (code : String) : CharSet := .ofSteps scriptTable (· == code)

/-- The characters that a script uses, its own and those of several scripts. -/
def scriptUse (code : String) : CharSet :=
  ((script code).diff (.ofSteps scriptUseTable (!·.isEmpty))).union
    (.ofSteps scriptUseTable (·.contains code))

/-! ## Age -/

def ageTable : Steps String := .ofText some ageRuns

/-- The editions in order. -/
def ages : List String :=
  ["1.1", "2.0", "2.1", "3.0", "3.1", "3.2", "4.0", "4.1", "5.0", "5.1", "5.2", "6.0", "6.1",
    "6.2", "6.3", "7.0", "8.0", "9.0", "10.0", "11.0", "12.0", "12.1", "13.0", "14.0", "15.0",
    "15.1", "16.0"]

/-- The characters that an edition has, whichever brought them. -/
def age? (name : String) : Option CharSet :=
  let isNamed (age : String) : Bool := age == name || "v" ++ age.replace "." "" == name
  (ages.findIdx? isNamed).map fun i =>
    let known := ages.take (i + 1)
    .ofSteps ageTable known.contains

end JsonSchema.Text.Property
