import RecordMapper.Value.Basic

/-!
# Statements and templates

A statement is a text with a placeholder for every parameter, and the parameters in the order of
their placeholders. It is composed as a `Template`: a list of pieces, each a text copied as it is or
a bound value. The statement of a template writes `?` for every bound value, so text and parameters
cannot disagree; what is written is said by `params_append` and `sql_append`.
-/

namespace RecordMapper

/-- A statement as an engine receives it. -/
structure Statement where
  /-- The text. -/
  sql : String
  /-- The parameters, one for each placeholder. -/
  params : List Value
deriving DecidableEq, Repr, Inhabited

/-- The number of placeholder characters in a statement's text. -/
def placeholders (sql : String) : Nat :=
  sql.toList.count '?'

/-- A piece of a template. -/
inductive Piece where
  /-- A text that is copied. -/
  | raw (text : String)
  /-- A value that is bound. -/
  | bound (value : Value)
deriving DecidableEq, Repr

namespace Piece

/-- What a piece writes into the text. -/
def sql : Piece → String
  | .raw text => text
  | .bound _ => "?"

/-- The value that a piece binds. -/
def value? : Piece → Option Value
  | .raw _ => none
  | .bound value => some value

end Piece

/-- A statement in the making. -/
structure Template where
  /-- The pieces in order. -/
  pieces : List Piece
deriving DecidableEq, Repr

namespace Template

/-- The template without pieces. -/
def empty : Template := ⟨[]⟩

/-- A copied text. -/
def raw (text : String) : Template := ⟨[.raw text]⟩

/-- A bound value. -/
def bind (value : Value) : Template := ⟨[.bound value]⟩

/-- One template after another. -/
def append (s t : Template) : Template := ⟨s.pieces ++ t.pieces⟩

instance : Append Template := ⟨append⟩
instance : Inhabited Template := ⟨empty⟩

/-- Templates one after another with a text between each two. -/
def join (sep : String) : List Template → Template
  | [] => empty
  | [t] => t
  | t :: rest => t ++ raw sep ++ join sep rest

/-- The text of a template. -/
def sql (t : Template) : String :=
  String.join (t.pieces.map Piece.sql)

/-- The values that a template binds. -/
def params (t : Template) : List Value :=
  t.pieces.filterMap Piece.value?

/-- The statement of a template. -/
def statement (t : Template) : Statement :=
  ⟨t.sql, t.params⟩

@[simp] theorem pieces_append (s t : Template) : (s ++ t).pieces = s.pieces ++ t.pieces := rfl

@[simp] theorem params_raw (text : String) : (raw text).params = [] := rfl

@[simp] theorem params_bind (v : Value) : (bind v).params = [v] := rfl

@[simp] theorem params_append (s t : Template) : (s ++ t).params = s.params ++ t.params := by
  simp [params]

@[simp] theorem sql_append (s t : Template) : (s ++ t).sql = s.sql ++ t.sql := by
  simp [sql, String.join_append]

end Template

end RecordMapper
