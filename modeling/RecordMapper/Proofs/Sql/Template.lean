import RecordMapper.Sql.Template

/-!
# What a template writes

The text and the parameters of a template, piece by piece.

* `placeholders_sql` counts the placeholders of a template's text: one for every parameter, and
  those inside the texts that are copied.
-/

namespace RecordMapper

/-! ## Placeholders of a text -/

@[simp] theorem placeholders_empty : placeholders "" = 0 := rfl

@[simp] theorem placeholders_append (s t : String) :
    placeholders (s ++ t) = placeholders s + placeholders t := by
  simp [placeholders]

theorem placeholders_eq_zero {s : String} : placeholders s = 0 ↔ '?' ∉ s.toList :=
  List.count_eq_zero

/-- The number of placeholder characters in some texts. -/
def placeholdersIn : List String → Nat
  | [] => 0
  | s :: rest => placeholders s + placeholdersIn rest

@[simp] theorem placeholdersIn_nil : placeholdersIn [] = 0 := rfl

@[simp] theorem placeholdersIn_cons (s : String) (rest : List String) :
    placeholdersIn (s :: rest) = placeholders s + placeholdersIn rest := rfl

@[simp] theorem placeholdersIn_append (texts more : List String) :
    placeholdersIn (texts ++ more) = placeholdersIn texts + placeholdersIn more := by
  induction texts with
  | nil => simp
  | cons s rest ih =>
    simp only [List.cons_append, placeholdersIn_cons, ih]
    omega

theorem placeholdersIn_eq_zero {texts : List String} (h : ∀ s ∈ texts, placeholders s = 0) :
    placeholdersIn texts = 0 := by
  induction texts with
  | nil => rfl
  | cons s rest ih =>
    have first := h s (by simp)
    have later := ih fun t ht => h t (by simp [ht])
    rw [placeholdersIn_cons]
    omega

/-- The placeholders of texts with a text without placeholders between each two. -/
theorem placeholders_intercalate {sep : String} (h : placeholders sep = 0) :
    ∀ texts : List String, placeholders (sep.intercalate texts) = placeholdersIn texts
  | [] => rfl
  | [s] => by simp
  | s :: t :: rest => by
    rw [String.intercalate_cons_cons, placeholders_append, placeholders_append, h,
      placeholders_intercalate h (t :: rest)]
    simp

namespace Template

/-! ## Pieces -/

@[simp] theorem sql_empty : empty.sql = "" := rfl

@[simp] theorem sql_raw (text : String) : (raw text).sql = text := by
  simp [sql, raw, Piece.sql, String.join]

@[simp] theorem sql_bind (v : Value) : (bind v).sql = "?" := rfl

@[simp] theorem params_empty : empty.params = [] := rfl

theorem join_cons_cons (sep : String) (t u : Template) (rest : List Template) :
    join sep (t :: u :: rest) = t ++ raw sep ++ join sep (u :: rest) := rfl

/-- The text of templates with a text between each two. -/
theorem sql_join (sep : String) :
    ∀ ts : List Template, (join sep ts).sql = sep.intercalate (ts.map sql)
  | [] => rfl
  | [t] => by simp [join]
  | t :: u :: rest => by
    rw [join_cons_cons, sql_append, sql_append, sql_raw, sql_join sep (u :: rest)]
    simp only [List.map_cons, String.intercalate_cons_cons]

/-- The parameters of templates with a text between each two. -/
@[simp] theorem params_join (sep : String) :
    ∀ ts : List Template, (join sep ts).params = ts.flatMap params
  | [] => rfl
  | [t] => by simp [join]
  | t :: u :: rest => by
    rw [join_cons_cons, params_append, params_append, params_raw, params_join sep (u :: rest)]
    simp

@[simp] theorem flatMap_params_bind (vs : List Value) : (vs.map bind).flatMap params = vs := by
  induction vs with
  | nil => rfl
  | cons v rest ih => simp [ih]

/-- Bound values are written alike. -/
theorem map_sql_bind (vs : List Value) :
    (vs.map bind).map sql = List.replicate vs.length "?" := by
  induction vs with
  | nil => rfl
  | cons v rest ih =>
    rw [List.map_cons, List.map_cons, ih, sql_bind]
    rfl

/-! ## Placeholders and parameters -/

/-- The texts that a template copies. -/
def texts (t : Template) : List String :=
  t.pieces.filterMap fun
    | .raw text => some text
    | .bound _ => none

@[simp] theorem texts_empty : empty.texts = [] := rfl

@[simp] theorem texts_raw (text : String) : (raw text).texts = [text] := rfl

@[simp] theorem texts_bind (v : Value) : (bind v).texts = [] := rfl

@[simp] theorem texts_append (s t : Template) : (s ++ t).texts = s.texts ++ t.texts := by
  simp [texts]

@[simp] theorem flatMap_texts_bind (vs : List Value) : (vs.map bind).flatMap texts = [] := by
  induction vs with
  | nil => rfl
  | cons v rest ih => simp [ih]

/-- The copied placeholders of templates with a text without placeholders between each two. -/
theorem placeholdersIn_texts_join {sep : String} (h : placeholders sep = 0) :
    ∀ ts : List Template,
      placeholdersIn (join sep ts).texts = placeholdersIn (ts.flatMap texts)
  | [] => rfl
  | [t] => by simp [join]
  | t :: u :: rest => by
    rw [join_cons_cons, texts_append, texts_append, placeholdersIn_append, placeholdersIn_append,
      placeholdersIn_texts_join h (u :: rest)]
    simp [h]

theorem sql_cons (p : Piece) (pieces : List Piece) :
    sql ⟨p :: pieces⟩ = p.sql ++ sql ⟨pieces⟩ := by
  simp [sql]

/-- **Every placeholder of a text is that of a parameter or was copied.** -/
theorem placeholders_sql (t : Template) :
    placeholders t.sql = t.params.length + placeholdersIn t.texts := by
  obtain ⟨pieces⟩ := t
  induction pieces with
  | nil => rfl
  | cons p rest ih =>
    rw [sql_cons, placeholders_append, ih]
    cases p with
    | raw text =>
      simp only [params, texts, Piece.sql, Piece.value?, List.filterMap_cons, placeholdersIn_cons]
      omega
    | bound v =>
      have one : placeholders "?" = 1 := rfl
      simp only [params, texts, Piece.sql, Piece.value?, List.filterMap_cons, List.length_cons,
        one]
      omega

end Template

end RecordMapper
