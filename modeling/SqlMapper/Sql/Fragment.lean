import SqlMapper.Value.Basic

namespace SqlMapper

/-- A dialect of SQL. -/
inductive Dialect where
  | sqlite
  | mysql
  | mssql
deriving DecidableEq, Repr

/-- What an insert does with a row whose key is taken. -/
inductive InsertMode where
  | plain
  | ignore
  | overwrite
deriving DecidableEq, Repr

namespace Dialect

def name : Dialect → String
  | .sqlite => "sqlite"
  | .mysql => "mysql"
  | .mssql => "mssql"

def opening : Dialect → Char
  | .sqlite => '"'
  | .mysql => '\x60'
  | .mssql => '['

def closing : Dialect → Char
  | .sqlite => '"'
  | .mysql => '\x60'
  | .mssql => ']'

/-- One character of a quoted identifier: the closing one is written twice. -/
def quotedChar (d : Dialect) (c : Char) : List Char :=
  if c = d.closing then [c, c] else [c]

def quotedChars (d : Dialect) (identifier : String) : List Char :=
  d.opening :: identifier.toList.flatMap d.quotedChar ++ [d.closing]

def quoted (d : Dialect) (identifier : String) : String := String.ofList (d.quotedChars identifier)

/-- The query for the id that the last insert generated. -/
def generatedId : Dialect → String
  | .sqlite => "SELECT last_insert_rowid()"
  | .mysql => "SELECT LAST_INSERT_ID()"
  | .mssql => "SELECT SCOPE_IDENTITY()"

def insertVerb : Dialect → InsertMode → String
  | _, .plain => "INSERT"
  | .sqlite, .ignore => "INSERT OR IGNORE"
  | _, .ignore => "INSERT IGNORE"
  | _, .overwrite => "REPLACE"

end Dialect
inductive Piece where
  /-- Text that stands as it is in every dialect. -/
  | word (text : String)
  /-- An identifier, quoted as the dialect says. -/
  | name (identifier : String)
  /-- A place for a bound value. -/
  | slot (value : Value)
deriving DecidableEq

namespace Piece

def chars (d : Dialect) : Piece → List Char
  | word text => text.toList
  | name identifier => d.quotedChars identifier
  | slot _ => ['?']

def value? : Piece → Option Value
  | slot v => some v
  | _ => none

def isBlank : Piece → Bool
  | word text => text.isEmpty
  | _ => false

end Piece

/-- A part of a statement. -/
abbrev Fragment := List Piece

/-- A statement for a database: text with a `?` for each parameter in turn. -/
structure Statement where
  sql : String
  params : List Datum
deriving DecidableEq

/-- The statement of a text and its bound values, unless one of them cannot travel. -/
def Statement.bind? (sql : String) (values : List Value) : Option Statement :=
  (values.mapM Value.toDatum?).map fun params => ⟨sql, params⟩

namespace Fragment

def chars (d : Dialect) (f : Fragment) : List Char := f.flatMap (Piece.chars d)

def text (d : Dialect) (f : Fragment) : String := String.ofList (f.chars d)

/-- The bound values in the order of their slots. -/
def values (f : Fragment) : List Value := f.filterMap Piece.value?

def isBlank (f : Fragment) : Bool := f.all Piece.isBlank

/-- Fragments with a separator between them. -/
def joined (separator : String) : List Fragment → Fragment
  | [] => []
  | [f] => f
  | f :: rest => f ++ .word separator :: joined separator rest

def inParens (f : Fragment) : Fragment := .word "(" :: f ++ [.word ")"]

/-- The statement that a fragment is in a dialect, unless a value cannot travel. -/
def statement? (d : Dialect) (f : Fragment) : Option Statement :=
  Statement.bind? (f.text d) f.values

@[simp] theorem chars_nil (d : Dialect) : chars d [] = [] := rfl

@[simp] theorem chars_append (d : Dialect) (f g : Fragment) :
    chars d (f ++ g) = chars d f ++ chars d g := List.flatMap_append

@[simp] theorem values_append (f g : Fragment) : values (f ++ g) = values f ++ values g :=
  List.filterMap_append

@[simp] theorem text_nil (d : Dialect) : text d [] = "" := rfl

theorem text_append (d : Dialect) (f g : Fragment) : text d (f ++ g) = text d f ++ text d g := by
  simp [text]

theorem text_word_cons (d : Dialect) (w : String) (f : Fragment) :
    text d (.word w :: f) = w ++ text d f := by
  simp [text, chars, Piece.chars]

theorem text_name_cons (d : Dialect) (n : String) (f : Fragment) :
    text d (.name n :: f) = d.quoted n ++ text d f := by
  simp [text, chars, Piece.chars, Dialect.quoted]

theorem text_joined (d : Dialect) (separator : String) (fs : List Fragment) :
    text d (joined separator fs) = separator.intercalate (fs.map (text d)) := by
  match fs with
  | [] => rfl
  | [f] => simp [joined]
  | f :: g :: rest =>
    rw [joined, text_append, text_word_cons, text_joined, List.map_cons, List.map_cons,
      List.map_cons, String.intercalate_cons_cons, String.append_assoc]
    simp

end Fragment

/-- What introduces the assignments of an insert that updates the row whose key is taken. -/
def Dialect.onConflict (keys : List String) : Dialect → Fragment
  | .sqlite =>
    .word "ON CONFLICT (" :: Fragment.joined "," (keys.map fun k => [.name k]) ++
      [.word ") DO UPDATE SET"]
  | .mysql | .mssql => [.word "ON DUPLICATE KEY UPDATE"]

end SqlMapper
