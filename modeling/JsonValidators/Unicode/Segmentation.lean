import JsonValidators.Unicode.BinaryProperty
import JsonValidators.Unicode.Script

/-!
The parts that characters play where text is cut into characters as they are
seen, into words and into sentences. Each of the three is a list of parts. A
character plays the first part in the list whose set it is in.
-/

namespace JsonValidators.Unicode

/-- A part that characters play: its normalized names and the characters that may
play it. -/
structure Role where
  names : List String
  set : Unit → CharSet

/-- The characters that play a part, by one of its normalized names. -/
def roleSet? (name : String) : List Role → Option CharSet
  | [] => none
  | role :: rest =>
    if role.names.contains name then some (role.set ())
    else (roleSet? name rest).map fun set => set.diff (role.set ())

def ofScript (code : String) : CharSet := setOfRuns scriptRuns (· == code)

/-- Signs that stand before the character that they belong to. -/
def prepended : CharSet :=
  setOfTable (prependedConcatenationMarkTable ++
    ["d4e 111c2-111c3 113d1 1193f 11941 11a3a 11a84-11a89 11d46 11f02"])

/-- Vowel signs and other marks with a width that do not extend a character. -/
def notSpacing : CharSet :=
  setOfTable
    ["102b-102c 1038 1062-1064 1067-106d 1083 1087-108c 108f 109a-109c 1a61 1a63-1a64",
      "aa7b aa7d 11720-11721"]

/-- The code points of syllables of two letters, at equal distances. -/
def openSyllables : CharSet :=
  CharSet.ofCodes ((List.range 399).map fun i => 0xac00 + 28 * i)

def clusterRoles : List Role :=
  [⟨["cr"], fun _ => CharSet.single '\r'⟩,
   ⟨["lf"], fun _ => CharSet.single '\n'⟩,
   ⟨["zwj"], fun _ => CharSet.single '\u200d'⟩,
   ⟨["extend", "ex"], fun _ => graphemeExtend.union (setOfTable emojiModifierTable)⟩,
   ⟨["prepend", "pp"], fun _ => prepended⟩,
   ⟨["control", "cn"], fun _ =>
     (ofCategories ["Zl", "Zp", "Cc", "Cf"]).union ((ofCategories ["Cn"]).inter defaultIgnorable)⟩,
   ⟨["regionalindicator", "ri"], fun _ => setOfTable regionalIndicatorTable⟩,
   ⟨["spacingmark", "sm"], fun _ =>
     ((ofCategories ["Mc"]).union (setOfTable ["e33 eb3"])).diff notSpacing⟩,
   ⟨["l"], fun _ => setOfTable ["1100-115f a960-a97c"]⟩,
   ⟨["v"], fun _ => setOfTable ["1160-11a7 d7b0-d7c6 16d63 16d67-16d6a"]⟩,
   ⟨["t"], fun _ => setOfTable ["11a8-11ff d7cb-d7fb"]⟩,
   ⟨["lv"], fun _ => openSyllables⟩,
   ⟨["lvt"], fun _ => setOfTable ["ac00-d7a3"]⟩]

/-- Marks of both kinds, and what changes the look of the character before. -/
def extending : CharSet :=
  CharSet.unions [graphemeExtend, ofCategories ["Mc"], setOfTable emojiModifierTable]

def letterLike : CharSet :=
  setOfTable
    ["2c2-2c5 2d2-2d7 2de-2df 2e5-2eb 2ed 2ef-2ff 55a-55c 55e 58a 5f3 70f a708-a716",
      "a720-a721 a789-a78a ab5b"]

/-- Letters of scripts that do not mark the ends of words. -/
def unspaced : CharSet :=
  setOfTable
    ["e01-e30 e32-e33 e40-e46 e81-e82 e84 e86-e8a e8c-ea3 ea5 ea7-eb0 eb2-eb3 ebd ec0-ec4",
      "ec6 edc-edf 1000-102a 103f 1050-1055 105a-105d 1061 1065-1066 106e-1070 1075-1081",
      "108e 1780-17b3 17d7 17dc 1950-196d 1970-1974 1980-19ab 19b0-19c9 1a20-1a54 1aa7",
      "a9e0-a9e4 a9e6-a9ef a9fa-a9fe aa60-aa76 aa7a aa7e-aaaf aab1 aab5-aab6 aab9-aabd aac0",
      "aac2 aadb-aadd 11700-1171a 11740-11746"]

def wordLetters : CharSet :=
  (alphabetic.union letterLike).diff
    (CharSet.unions [setOfTable ideographicTable, ofScript "Hira", unspaced])

def wordRoles : List Role :=
  [⟨["cr"], fun _ => CharSet.single '\r'⟩,
   ⟨["lf"], fun _ => CharSet.single '\n'⟩,
   ⟨["newline", "nl"], fun _ => setOfTable ["b-c 85 2028-2029"]⟩,
   ⟨["zwj"], fun _ => CharSet.single '\u200d'⟩,
   ⟨["regionalindicator", "ri"], fun _ => setOfTable regionalIndicatorTable⟩,
   ⟨["doublequote", "dq"], fun _ => CharSet.single '"'⟩,
   ⟨["singlequote", "sq"], fun _ => CharSet.single '\''⟩,
   ⟨["extend"], fun _ => extending⟩,
   ⟨["katakana", "ka"], fun _ =>
     (ofScript "Kana").union (setOfTable ["3031-3035 309b-309c 30a0 30fc ff70"])⟩,
   ⟨["hebrewletter", "hl"], fun _ => (ofScript "Hebr").inter (ofCategories ["Lo"])⟩,
   ⟨["extendnumlet", "ex"], fun _ => withTable ["Pc"] ["202f"]⟩,
   ⟨["midnumlet", "mb"], fun _ => setOfTable ["2e 2018-2019 2024 fe52 ff07 ff0e"]⟩,
   ⟨["midletter", "ml"], fun _ => setOfTable ["3a b7 387 55f 5f4 2027 fe13 fe55 ff1a"]⟩,
   ⟨["midnum", "mn"], fun _ =>
     setOfTable ["2c 3b 37e 589 60c-60d 66c 7f8 2044 fe10 fe14 fe50 fe54 ff0c ff1b"]⟩,
   ⟨["numeric", "nu"], fun _ =>
     withTable ["Nd"] ["600-605 66b 6dd 890-891 8e2 110bd 110cd"]⟩,
   ⟨["format", "fo"], fun _ =>
     (ofCategories ["Cf"]).diff ((setOfTable ["200b-200d e0020-e007f"]).union prepended)⟩,
   ⟨["wsegspace"], fun _ => setOfTable ["20 1680 2000-2006 2008-200a 205f 3000"]⟩,
   ⟨["aletter", "le"], fun _ => wordLetters⟩]

def sentenceRoles : List Role :=
  [⟨["cr"], fun _ => CharSet.single '\r'⟩,
   ⟨["lf"], fun _ => CharSet.single '\n'⟩,
   ⟨["extend", "ex"], fun _ =>
     CharSet.unions [graphemeExtend, ofCategories ["Mc"], CharSet.single '\u200d']⟩,
   ⟨["sep", "se"], fun _ => setOfTable ["85 2028-2029"]⟩,
   ⟨["format", "fo"], fun _ => (ofCategories ["Cf"]).diff (setOfTable ["200c-200d"])⟩,
   ⟨["sp"], fun _ => whiteSpace⟩,
   ⟨["lower", "lo"], fun _ => lowercase.diff (setOfTable ["10d0-10fa 10fd-10ff"])⟩,
   ⟨["upper", "up"], fun _ =>
     ((ofCategories ["Lt"]).union uppercase).diff (setOfTable ["1c90-1cba 1cbd-1cbf"])⟩,
   ⟨["oletter", "le"], fun _ => alphabetic.union (setOfTable ["a0 5f3"])⟩,
   ⟨["numeric", "nu"], fun _ => withTable ["Nd"] ["66b-66c"]⟩,
   ⟨["aterm", "at"], fun _ => setOfTable ["2e 2024 fe52 ff0e"]⟩,
   ⟨["scontinue", "sc"], fun _ =>
     setOfTable
       ["2c-2d 3a-3b 37e 55d 60c-60d 7f8 1802 1808 2013-2014 3001 fe10-fe11 fe13-fe14",
         "fe31-fe32 fe50-fe51 fe54-fe55 fe58 fe63 ff0c-ff0d ff1a-ff1b ff64"]⟩,
   ⟨["sterm", "st"], fun _ => setOfTable sentenceTerminalTable⟩,
   ⟨["close", "cl"], fun _ =>
     withTable ["Ps", "Pe", "Pi", "Pf"]
       ["22 27 275b-2760 2e00-2e01 2e06-2e08 2e0b 1f676-1f678"]⟩]

end JsonValidators.Unicode
