import SqlMapper.Sql.Fragment
import SqlMapper.Text.Split

namespace SqlMapper

structure Column where
  /-- The table alias, empty for a plain column. -/
  qualifier : String
  name : String
  /-- What the column is called in field maps and results: the alias, the delimiter and the name, or
  the name alone. -/
  label : String
deriving DecidableEq, Repr

/-- Whether a text can be a table alias: an ASCII letter, and then ASCII letters and digits. -/
def isTableAlias : List Char → Bool
  | [] => false
  | c :: cs => c.isAlpha && cs.all Char.isAlphanum

namespace Column

/-- The column of an alias, which may be empty. -/
def qualified (qualifier name delimiter : String) : Column where
  qualifier := qualifier
  name := name
  label := if qualifier.isEmpty then name else qualifier ++ delimiter ++ name

/-- Read a column name. What stands before the first delimiter is the alias if it can be one;
otherwise the whole is a name under the fallback alias. -/
def read (raw fallback delimiter : String) : Column :=
  match Text.splitFirst? delimiter.toList raw.toList with
  | some (before, rest) =>
    if isTableAlias before then qualified (String.ofList before) (String.ofList rest) delimiter
    else qualified fallback raw delimiter
  | none => qualified fallback raw delimiter

/-- The column as a statement refers to it. -/
def reference (c : Column) : Fragment :=
  if c.qualifier.isEmpty then [.name c.name] else [.word (c.qualifier ++ "."), .name c.name]

/-- The column as an item of a projection. A qualified one is named by its label. -/
def item (c : Column) : Fragment :=
  if c.qualifier.isEmpty then [.name c.name]
  else c.reference ++ [.word " AS ", .name c.label]

end Column

/-- What criteria are rendered against: the columns in their order, and how names are read. -/
structure Scope where
  columns : List Column
  defaultQualifier : String
  delimiter : String
deriving DecidableEq

def Scope.column (s : Scope) (name : String) : Column :=
  Column.read name s.defaultQualifier s.delimiter

/-- The delimiter where no other is chosen. -/
def defaultDelimiter : String := "::"

end SqlMapper
