import Fedqrs.Core.Expr

/-! References to columns by name. An expression keeps the name it is given; a key is a text
that DataFusion reads as a possibly qualified SQL identifier.
-/

namespace Fedqrs

/-- A reference to a column, with the parts of a table's name if it is qualified. -/
structure ColumnRef where
  qualifier : List String
  name : String
deriving DecidableEq, Repr

/-- One part of an identifier, with its quote character if it is quoted. -/
structure IdentPart where
  value : String
  quote : Option Char
deriving DecidableEq, Repr

/-- The SQL parser's reading of a text as parts of an identifier, none for any other text. -/
abbrev IdentParser : Type := String → Option (List IdentPart)

/-- Upper-case ASCII letters made lower-case. -/
def lowerAscii (text : String) : String := String.ofList (text.toList.map Char.toLower)

/-- An unquoted part is made lower-case. -/
def IdentPart.normalized (part : IdentPart) : String :=
  match part.quote with
  | some _ => part.value
  | none => lowerAscii part.value

/-- A column's name with up to three parts of a table's name before it. -/
def ColumnRef.fromIdents (idents : List String) : Option ColumnRef :=
  if 1 ≤ idents.length ∧ idents.length ≤ 4 then
    idents.getLast?.map (fun name => { qualifier := idents.dropLast, name })
  else
    none

/-- `Column::new` without a relation: the name as it is. -/
def ColumnRef.verbatim (name : String) : ColumnRef := { qualifier := [], name }

section Parsing

variable (parse : IdentParser)

/-- `Column::from(&str)`, as `col` and the keys of a join use it: a text that is no identifier
of one to four parts is taken as it is.
-/
def ColumnRef.ofText (text : String) : ColumnRef :=
  (ColumnRef.fromIdents (((parse text).getD []).map IdentPart.normalized)).getD (.verbatim text)

/-- The column whose distinct values `collect_distinct_from` collects. -/
def collectDistinctColumn (key : String) : ColumnRef := .ofText parse key

/-- The columns that `join_frame` joins on. -/
def joinFrameColumns (leftKeys rightKeys : List String) : List ColumnRef × List ColumnRef :=
  (leftKeys.map (ColumnRef.ofText parse), rightKeys.map (ColumnRef.ofText parse))

end Parsing

/-- The reference an expression consists of. -/
def Expr.columnRef : Expr → Option ColumnRef
  | .column relation name => some { qualifier := relation.toList, name }
  | _ => none

/-- The column of a table that a reference stands for: names are compared as they are, and a
qualifier has to end in the table's name.
-/
def ColumnRef.column (ref : ColumnRef) (table : String) (columns : List String)
    : Option String :=
  if (ref.qualifier = [] ∨ ref.qualifier.getLast? = some table) ∧ ref.name ∈ columns then
    some ref.name
  else
    none

theorem ColumnRef.column_eq_some {ref : ColumnRef} {table name : String}
    {columns : List String} (stands : ref.column table columns = some name)
    : ref.name = name := by
  unfold ColumnRef.column at stands
  split at stands
  · exact Option.some.inj stands
  · cases stands

/-- An unqualified reference stands for the column of its name. -/
theorem ColumnRef.verbatim_column {name : String} {columns : List String}
    (present : name ∈ columns) (table : String)
    : (verbatim name).column table columns = some name := by
  unfold ColumnRef.column
  rw [if_pos ⟨Or.inl rfl, present⟩]
  rfl

/-- An identifier of words: letters, digits and underscores, with dots between them. -/
def wordParts : IdentParser := fun text =>
  let parts := text.toList.splitOn '.'
  if parts.all (fun word => !word.isEmpty && word.all (fun c => c.isAlphanum || c == '_')) then
    some (parts.map (fun word => { value := String.ofList word, quote := none }))
  else
    none

end Fedqrs
