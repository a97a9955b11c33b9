import JsonValidators.Unicode.CategoryTable
import JsonValidators.Unicode.Decoding

/-!
General categories. Each character is in one of them, and a category is in one of
seven groups. The code points of no character have a category, but no set.
-/

namespace JsonValidators.Unicode

def categoryRuns : List Run := runsOfTable categoryTable

/-- The characters of some general categories, by their codes of two letters. -/
def ofCategories (codes : List String) : CharSet := setOfRuns categoryRuns codes.contains

/-- The names of the general categories and of their groups, with the codes that
each stands for. -/
def categoryNames : List (List String × List String) :=
  [(["lu", "uppercaseletter"], ["Lu"]), (["ll", "lowercaseletter"], ["Ll"]),
   (["lt", "titlecaseletter"], ["Lt"]), (["lm", "modifierletter"], ["Lm"]),
   (["lo", "otherletter"], ["Lo"]), (["mn", "nonspacingmark"], ["Mn"]),
   (["mc", "spacingmark"], ["Mc"]), (["me", "enclosingmark"], ["Me"]),
   (["nd", "decimalnumber", "digit"], ["Nd"]), (["nl", "letternumber"], ["Nl"]),
   (["no", "othernumber"], ["No"]), (["pc", "connectorpunctuation"], ["Pc"]),
   (["pd", "dashpunctuation"], ["Pd"]), (["ps", "openpunctuation"], ["Ps"]),
   (["pe", "closepunctuation"], ["Pe"]), (["pi", "initialpunctuation"], ["Pi"]),
   (["pf", "finalpunctuation"], ["Pf"]), (["po", "otherpunctuation"], ["Po"]),
   (["sm", "mathsymbol"], ["Sm"]), (["sc", "currencysymbol"], ["Sc"]),
   (["sk", "modifiersymbol"], ["Sk"]), (["so", "othersymbol"], ["So"]),
   (["zs", "spaceseparator"], ["Zs"]), (["zl", "lineseparator"], ["Zl"]),
   (["zp", "paragraphseparator"], ["Zp"]), (["cc", "control", "cntrl"], ["Cc"]),
   (["cf", "format"], ["Cf"]), (["co", "privateuse"], ["Co"]), (["cn", "unassigned"], ["Cn"]),
   (["lc", "casedletter"], ["Lu", "Ll", "Lt"]),
   (["l", "letter"], ["Lu", "Ll", "Lt", "Lm", "Lo"]),
   (["m", "mark", "combiningmark"], ["Mn", "Mc", "Me"]),
   (["n", "number"], ["Nd", "Nl", "No"]),
   (["p", "punctuation", "punct"], ["Pc", "Pd", "Ps", "Pe", "Pi", "Pf", "Po"]),
   (["s", "symbol"], ["Sm", "Sc", "Sk", "So"]),
   (["z", "separator"], ["Zs", "Zl", "Zp"]),
   (["c", "other"], ["Cc", "Cf", "Cs", "Co", "Cn"])]

/-- The characters of a general category or group, by its normalized name. -/
def categorySet? (name : String) : Option CharSet :=
  if name = "any" then some CharSet.full
  else if name = "ascii" then some CharSet.ascii
  else if name = "assigned" then some (ofCategories ["Cn"]).compl
  else
    (categoryNames.find? fun (names, _) => names.contains name).map
      fun (_, codes) => ofCategories codes

/-- The characters of numbers: digits, letters and others. -/
def numeric : CharSet := ofCategories ["Nd", "Nl", "No"]

def decimalDigit : CharSet := ofCategories ["Nd"]

end JsonValidators.Unicode
