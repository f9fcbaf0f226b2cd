import Stepwise.Unicode.Age
import Stepwise.Unicode.ScriptExtension
import Stepwise.Unicode.Segmentation

/-!
# Properties by name

Names of properties are compared in lower case, without blanks, hyphens and
underscores, and without a leading `is`. A name alone stands for a binary property,
a general category or a script, in this order.
-/

namespace Stepwise.Unicode

/-- The form in which names are compared. -/
def looseName (name : String) : String :=
  let cs := name.toList
  let (isDropped, cs) :=
    match cs with
    | a :: b :: rest =>
        if a.toLower = 'i' ∧ b.toLower = 's' then (true, rest) else (false, cs)
    | _ => (false, cs)
  let kept := (cs.filter fun c => c.toNat < 0x80 ∧ c ∉ [' ', '_', '-']).map Char.toLower
  if isDropped ∧ kept = ['c'] then "isc" else String.ofList kept

/-- The general categories and their groups under the names they have in `looseName`
form. There are no characters of category `Cs`, which has no name here. -/
def categories : List (List String × Ranges) :=
  open Category in
  [(["any"], [(0, Ranges.lastPoint)]),
   (["assigned"], assigned),
   (["ascii"], [(0, 0x7f)]),
   (["l", "letter"], letter),
   (["lc", "casedletter"], casedLetter),
   (["lu", "uppercaseletter"], uppercaseLetter),
   (["ll", "lowercaseletter"], lowercaseLetter),
   (["lt", "titlecaseletter"], titlecaseLetter),
   (["lm", "modifierletter"], modifierLetter),
   (["lo", "otherletter"], otherLetter),
   (["m", "mark", "combiningmark"], mark),
   (["mn", "nonspacingmark"], nonspacingMark),
   (["mc", "spacingmark"], spacingMark),
   (["me", "enclosingmark"], enclosingMark),
   (["n", "number"], number),
   (["nd", "decimalnumber", "digit"], decimalNumber),
   (["nl", "letternumber"], letterNumber),
   (["no", "othernumber"], otherNumber),
   (["p", "punctuation", "punct"], punctuation),
   (["pc", "connectorpunctuation"], connectorPunctuation),
   (["pd", "dashpunctuation"], dashPunctuation),
   (["ps", "openpunctuation"], openPunctuation),
   (["pe", "closepunctuation"], closePunctuation),
   (["pi", "initialpunctuation"], initialPunctuation),
   (["pf", "finalpunctuation"], finalPunctuation),
   (["po", "otherpunctuation"], otherPunctuation),
   (["s", "symbol"], symbol),
   (["sm", "mathsymbol"], mathSymbol),
   (["sc", "currencysymbol"], currencySymbol),
   (["sk", "modifiersymbol"], modifierSymbol),
   (["so", "othersymbol"], otherSymbol),
   (["z", "separator"], separator),
   (["zs", "spaceseparator"], spaceSeparator),
   (["zl", "lineseparator"], lineSeparator),
   (["zp", "paragraphseparator"], paragraphSeparator),
   (["c", "other"], other),
   (["cc", "control", "cntrl"], control),
   (["cf", "format"], format),
   (["co", "privateuse"], privateUse),
   (["cn", "unassigned"], unassigned)]

/-- The category or group of categories of a name in `looseName` form. -/
def category? (name : String) : Option Ranges :=
  (categories.find? (·.1.contains name)).map (·.2)

/-- The characters that a name alone asks for. -/
def named? (name : String) : Option Ranges :=
  let name := looseName name
  (binaryProperty? name).or ((category? name).or ((script? name).map (·.2)))

/-- The characters that have a value of a property. -/
def valued? (property value : String) : Option Ranges :=
  let value := looseName value
  match looseName property with
  | "gc" | "generalcategory" => category? value
  | "sc" | "script" => (script? value).map (·.2)
  | "scx" | "scriptextensions" => scriptExtension? value
  | "age" => agedUpTo? value
  | "gcb" | "graphemeclusterbreak" => classOf? clusterClasses value
  | "wb" | "wordbreak" => classOf? wordClasses value
  | "sb" | "sentencebreak" => classOf? sentenceClasses value
  | _ => none

end Stepwise.Unicode
