import BroadcastFilter.Unicode.Age
import BroadcastFilter.Unicode.Boundary
import BroadcastFilter.Unicode.Category
import BroadcastFilter.Unicode.Character
import BroadcastFilter.Unicode.Script
import BroadcastFilter.Unicode.ScriptExtension
import BroadcastFilter.Unicode.Trait

/-!
Looking up a set of characters by property. Names are compared loosely: case, blanks, hyphens,
underscores, characters beyond the first 128 and a leading `is` make no difference. A lone name is
first taken for a yes-or-no property, then for a general category, then for a script.
-/

namespace BroadcastFilter.Unicode.Property

/-- What remains of a name when all that makes no difference is gone. The name `isc` keeps its
leading `is`, which is part of an abbreviation. -/
def loose (name : String) : List Char :=
  let keep (cs : List Char) : List Char :=
    cs.filterMap fun c =>
      if c = ' ' ∨ c = '_' ∨ c = '-' ∨ 128 ≤ c.toNat then none else some c.toLower
  match name.toList with
  | a :: b :: rest =>
    if a.toLower = 'i' ∧ b.toLower = 's' then
      if keep rest = ['c'] then ['i', 's', 'c'] else keep rest
    else keep (a :: b :: rest)
  | short => keep short

/-- The set of the row that has the given loose name. -/
def row? (table : List (List String × String)) (name : List Char) : Option CodeSet :=
  (table.find? fun row => row.1.any fun n => loose n = name).map fun row => CodeSet.unpack row.2

/-- The set of a general category, a group of categories, or one of three names outside the
database: `any`, `assigned` and `ascii`. -/
def category? (name : List Char) : Option CodeSet :=
  if name = "any".toList then some CodeSet.full
  else if name = "ascii".toList then some (CodeSet.range 0 0x7F)
  else if name = "assigned".toList then some (rowNamed categories "Cn").complement
  else match row? categories name with
    | some s => some s
    | none => (categoryGroups.find? fun group => group.1.any fun n => loose n = name).map
        fun group => CodeSet.unions (group.2.map (rowNamed categories))

/-- The characters that some version already had. -/
def age? (name : List Char) : Option CodeSet :=
  let named (version : String) : Bool :=
    loose version = name || loose ("V" ++ version.replace "." "_") = name
  if additions.any (fun v => named v.1) then
    let upTo := additions.takeWhile fun v => !named v.1
    let last := additions.filter fun v => named v.1
    some (CodeSet.unions ((upTo ++ last).map fun v => CodeSet.unpack v.2))
  else none

/-- Abbreviations that are at once a category and a property without a table: the category is
meant. -/
def categoryFirst : List (List Char) := ["cf".toList, "sc".toList, "lc".toList]

/-- Property names without a table that would otherwise be taken for something else. -/
def untabled : List (List Char) := ["uc".toList]

/-- The set that a lone name stands for. -/
def named? (text : String) : Option CodeSet :=
  let name := loose text
  let asTrait := if categoryFirst.contains name then none else row? traits name
  if untabled.contains name then none
  else asTrait <|> category? name <|> row? scripts name

/-- The set of the characters for which a property has a value. -/
def valued? (property value : String) : Option CodeSet :=
  let p := loose property
  let v := loose value
  let isOne (names : List String) : Bool := names.any fun n => n.toList = p
  if isOne ["gc", "generalcategory"] then category? v
  else if isOne ["sc", "script"] then row? scripts v
  else if isOne ["scx", "scriptextensions"] then row? scriptExtensions v
  else if isOne ["age"] then age? v
  else if isOne ["gcb", "graphemeclusterbreak"] then row? graphemeBreaks v
  else if isOne ["wb", "wordbreak"] then row? wordBreaks v
  else if isOne ["sb", "sentencebreak"] then row? sentenceBreaks v
  else none

end BroadcastFilter.Unicode.Property
