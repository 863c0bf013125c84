import SqlMapper.Query.Condition
import SqlMapper.Entity.FieldType
import SqlMapper.Entity.Schema

namespace SqlMapper

/-- The columns of an entity type with their types. -/
abbrev Columns := List (String × FieldType)

structure Declaration where
  table : String
  columns : Columns
  primaryKey : List String
  autoIncrement : List String
  columns_nodup : (columns.map (·.1)).Nodup := by decide

namespace Declaration

def names (d : Declaration) : List String := d.columns.map (·.1)

/-- The declared schema, which may be inconsistent. -/
def schema (d : Declaration) : Schema where
  table := d.table
  columns := d.names
  primaryKey := d.primaryKey
  autoIncrement := d.autoIncrement

end Declaration

/-- An entity: a value for each column. -/
def Entity : Columns → Type
  | [] => Unit
  | (_, type) :: rest => type.Carrier × Entity rest

namespace Entity

def nil : Entity [] := ()

def cons {name : String} {type : FieldType} {rest : Columns} (value : type.Carrier)
    (others : Entity rest) : Entity ((name, type) :: rest) := (value, others)

/-- Entities are built column by column. -/
@[elab_as_elim, induction_eliminator]
theorem byColumns {motive : (columns : Columns) → Entity columns → Prop} (nil : motive [] nil)
    (cons : ∀ {name : String} {type : FieldType} {rest : Columns} (value : type.Carrier)
      (others : Entity rest), motive rest others →
        motive ((name, type) :: rest) (cons value others))
    {columns : Columns} (e : Entity columns) : motive columns e := by
  induction columns with
  | nil => exact nil
  | cons column rest ih => exact cons e.1 e.2 (ih e.2)

/-- What the entity supplies for each name. -/
def supply : {columns : Columns} → Entity columns → Supply
  | [], _ => fun _ => none
  | (n, t) :: _, (value, others) => fun name =>
    if name = n then t.supplied value else others.supply name

def count : {columns : Columns} → Entity columns → Nat
  | [], _ => 0
  | (_, t) :: _, (value, others) => (t.supplied value).isSome.toNat + others.count

theorem supply_cons {first : String} {type : FieldType} {rest : Columns} (value : type.Carrier)
    (others : Entity rest) (name : String) :
    (@cons first type rest value others).supply name =
      if name = first then type.supplied value else others.supply name := rfl

theorem count_cons {first : String} {type : FieldType} {rest : Columns} (value : type.Carrier)
    (others : Entity rest) :
    (@cons first type rest value others).count =
      (type.supplied value).isSome.toNat + others.count := rfl

/-- Read an entity from a row, column by column in their order. -/
def decode (row : Row) : (columns : Columns) → Except DecodeError (Entity columns)
  | [] => .ok nil
  | (name, type) :: rest => do
    let value ← type.readField row name
    let others ← decode row rest
    return cons value others

/-- The columns with what the entity supplies for them. -/
def toList {columns : Columns} (e : Entity columns) : List (String × Option Supplied) :=
  columns.map fun c => (c.1, e.supply c.1)

/-- The condition that a row looks like the entity: its set fields, among the declared columns. -/
def toCondition {columns : Columns} (e : Entity columns) : Condition :=
  .ofSupply (columns.map (·.1)) e.supply

end Entity
end SqlMapper
