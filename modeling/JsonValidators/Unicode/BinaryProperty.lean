import JsonValidators.Unicode.CasingTable
import JsonValidators.Unicode.Category
import JsonValidators.Unicode.PropertyTable

/-!
Properties that a character either has or has not. Some are tables of their own.
The others follow from general categories and from what a table adds to them.
-/

namespace JsonValidators.Unicode

/-- Some general categories with the characters that a table adds. -/
def withTable (codes : List String) (table : List String) : CharSet :=
  (ofCategories codes).union (setOfTable table)

/-- Letters, letter numbers, and marks that are used as letters. -/
def alphabetic : CharSet := withTable ["Lu", "Ll", "Lt", "Lm", "Lo", "Nl"] otherAlphabeticTable

def lowercase : CharSet := withTable ["Ll"] otherLowercaseTable

def uppercase : CharSet := withTable ["Lu"] otherUppercaseTable

def cased : CharSet := CharSet.unions [lowercase, uppercase, ofCategories ["Lt"]]

def math : CharSet := withTable ["Sm"] otherMathTable

def whiteSpace : CharSet := setOfTable whiteSpaceTable

/-- Characters with a meaning in patterns, which are in no identifier. -/
def patternCharacters : CharSet :=
  (setOfTable patternSyntaxTable).union (setOfTable patternWhiteSpaceTable)

def identifierStart : CharSet :=
  (withTable ["Lu", "Ll", "Lt", "Lm", "Lo", "Nl"] otherIdStartTable).diff patternCharacters

def identifierContinue : CharSet :=
  (identifierStart.union (withTable ["Mn", "Mc", "Nd", "Pc"] otherIdContinueTable)).diff
    patternCharacters

def graphemeExtend : CharSet := withTable ["Mn", "Me"] otherGraphemeExtendTable

/-- Characters that stand by themselves. -/
def graphemeBase : CharSet :=
  ((ofCategories ["Cc", "Cf", "Cs", "Co", "Cn", "Zl", "Zp"]).union graphemeExtend).compl

/-- Characters that are left out where they cannot be shown. -/
def defaultIgnorable : CharSet :=
  (CharSet.unions [withTable ["Cf"] otherDefaultIgnorableTable,
      setOfTable variationSelectorTable]).diff
    (CharSet.unions [whiteSpace, setOfTable prependedConcatenationMarkTable,
      setOfTable ["fff9-fffb 13430-1343f"]])

/-- Marks and signs that do not hinder the choice of a case. -/
def caseIgnorable : CharSet :=
  withTable ["Mn", "Me", "Cf", "Lm", "Sk"]
    ["27 2e 3a b7 387 55f 5f4 2018-2019 2024 2027 fe13 fe52 fe55 ff07 ff0e ff1a"]

def changesWhenCasemapped : CharSet :=
  CharSet.unions [setOfTable changesWhenLowercasedTable, setOfTable changesWhenUppercasedTable,
    setOfTable changesWhenTitlecasedTable]

/-- What makes up words: letters, marks, decimal digits, connectors and joiners. -/
def word : CharSet :=
  CharSet.unions [alphabetic, ofCategories ["Mn", "Mc", "Me", "Nd", "Pc"],
    setOfTable joinControlTable]

/-- The properties that follow from others, with their normalized names. -/
def derivedProperties : List (List String × (Unit → CharSet)) :=
  [(["alphabetic", "alpha"], fun _ => alphabetic),
   (["lowercase", "lower"], fun _ => lowercase),
   (["uppercase", "upper"], fun _ => uppercase),
   (["cased"], fun _ => cased),
   (["caseignorable", "ci"], fun _ => caseIgnorable),
   (["changeswhencasemapped", "cwcm"], fun _ => changesWhenCasemapped),
   (["math"], fun _ => math),
   (["idstart", "ids"], fun _ => identifierStart),
   (["idcontinue", "idc"], fun _ => identifierContinue),
   (["xidstart", "xids"], fun _ => identifierStart.diff (setOfTable xidStartExceptionTable)),
   (["xidcontinue", "xidc"], fun _ =>
     identifierContinue.diff (setOfTable xidContinueExceptionTable)),
   (["graphemeextend", "grext"], fun _ => graphemeExtend),
   (["graphemebase", "grbase"], fun _ => graphemeBase),
   (["defaultignorablecodepoint", "di"], fun _ => defaultIgnorable)]

/-- The properties that are tables, with their normalized names. -/
def tableProperties : List (List String × List String) :=
  [(["whitespace", "wspace", "space"], whiteSpaceTable),
   (["asciihexdigit", "ahex"], asciiHexDigitTable),
   (["bidicontrol", "bidic"], bidiControlTable),
   (["changeswhencasefolded", "cwcf"], changesWhenCasefoldedTable),
   (["changeswhenlowercased", "cwl"], changesWhenLowercasedTable),
   (["changeswhentitlecased", "cwt"], changesWhenTitlecasedTable),
   (["changeswhenuppercased", "cwu"], changesWhenUppercasedTable),
   (["dash"], dashTable),
   (["deprecated", "dep"], deprecatedTable),
   (["diacritic", "dia"], diacriticTable),
   (["emoji"], emojiTable),
   (["emojicomponent", "ecomp"], emojiComponentTable),
   (["emojimodifier", "emod"], emojiModifierTable),
   (["emojimodifierbase", "ebase"], emojiModifierBaseTable),
   (["emojipresentation", "epres"], emojiPresentationTable),
   (["extendedpictographic", "extpict"], extendedPictographicTable),
   (["extender", "ext"], extenderTable),
   (["graphemelink", "grlink"], graphemeLinkTable),
   (["hexdigit", "hex"], hexDigitTable),
   (["hyphen"], hyphenTable),
   (["idsbinaryoperator", "idsb"], idsBinaryOperatorTable),
   (["idstrinaryoperator", "idst"], idsTrinaryOperatorTable),
   (["idsunaryoperator", "idsu"], idsUnaryOperatorTable),
   (["idcompatmathstart"], idCompatMathStartTable),
   (["idcompatmathcontinue"], idCompatMathContinueTable),
   (["ideographic", "ideo"], ideographicTable),
   (["joincontrol", "joinc"], joinControlTable),
   (["logicalorderexception", "loe"], logicalOrderExceptionTable),
   (["modifiercombiningmark", "mcm"], modifierCombiningMarkTable),
   (["noncharactercodepoint", "nchar"], noncharacterCodePointTable),
   (["otheralphabetic", "oalpha"], otherAlphabeticTable),
   (["otherdefaultignorablecodepoint", "odi"], otherDefaultIgnorableTable),
   (["othergraphemeextend", "ogrext"], otherGraphemeExtendTable),
   (["otheridcontinue", "oidc"], otherIdContinueTable),
   (["otheridstart", "oids"], otherIdStartTable),
   (["otherlowercase", "olower"], otherLowercaseTable),
   (["othermath", "omath"], otherMathTable),
   (["otheruppercase", "oupper"], otherUppercaseTable),
   (["patternsyntax", "patsyn"], patternSyntaxTable),
   (["patternwhitespace", "patws"], patternWhiteSpaceTable),
   (["prependedconcatenationmark", "pcm"], prependedConcatenationMarkTable),
   (["quotationmark", "qmark"], quotationMarkTable),
   (["radical"], radicalTable),
   (["regionalindicator", "ri"], regionalIndicatorTable),
   (["sentenceterminal", "sterm"], sentenceTerminalTable),
   (["softdotted", "sd"], softDottedTable),
   (["terminalpunctuation", "term"], terminalPunctuationTable),
   (["unifiedideograph", "uideo"], unifiedIdeographTable),
   (["variationselector", "vs"], variationSelectorTable)]

/-- The characters that have a property, by one of its normalized names. -/
def binarySet? (name : String) : Option CharSet :=
  match derivedProperties.find? fun (names, _) => names.contains name with
  | some (_, set) => some (set ())
  | none =>
    (tableProperties.find? fun (names, _) => names.contains name).map
      fun (_, table) => setOfTable table

end JsonValidators.Unicode
