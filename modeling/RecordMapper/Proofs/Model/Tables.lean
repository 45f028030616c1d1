import Mathlib.Data.List.Count
import Mathlib.Data.List.Induction
import RecordMapper.Model.Tables
import RecordMapper.Proofs.Model.Runs
import RecordMapper.Proofs.Schema.IndexNames

/-!
# Tables and their indexes

What becomes of a table whose statements are put to an engine that tells indexes apart by their
names.

* `Engine.Catalogues` is what such an engine does with the statements of a schema, seen through its
  `Catalogue`: the table, and the names of indexes that are taken.
* `Model.creates` and `Model.drops` are the runs of statements that create indexes of new names, and
  that drop indexes. From them come the runs of the calls: `Model.createTable_completes`, and
  `Model.createTable_stops` where a name occurs again, and `Model.dropTable_completes`.
* `Model.IndexNamesDecide` says of a table that it is created, or left half created, as the names of
  its indexes are distinct or not.
* `table_goes_by_index_names` puts them together with what is known of the names. `bookings_stop` is
  a table that is left half created.
-/

namespace RecordMapper

/-- What can be seen of a table in an engine. -/
structure Catalogue where
  /-- Whether the table is there. -/
  table : Bool
  /-- The names of indexes that are taken, the last one first. -/
  names : List String
deriving DecidableEq, Repr

/-- The statement that drops an index. -/
def Schema.dropIndexSql (name : String) : String :=
  "DROP INDEX IF EXISTS " ++ name

namespace Engine

variable {σ : Type}

/-- A statement that the engine runs, after which its catalogue is another one. -/
def Accepts (engine : Engine σ) (view : σ → Catalogue) (state : σ) (sql : String)
    (left : Catalogue) : Prop :=
  ∃ reply next, engine ⟨sql, []⟩ state = (.ok reply, next) ∧ view next = left

/-- A statement that the engine rejects, after which its catalogue is the same. -/
def Refuses (engine : Engine σ) (view : σ → Catalogue) (state : σ) (sql : String) : Prop :=
  ∃ rejection next, engine ⟨sql, []⟩ state = (.error rejection, next) ∧ view next = view state

/-- An engine that creates a table that is not there, and indexes on it whose names are not taken.
It refuses an index under a name that is taken, and drops whatever is there. -/
structure Catalogues (engine : Engine σ) (s : Schema) (view : σ → Catalogue) : Prop where
  create {state : σ} {names : List String} : view state = ⟨false, names⟩ →
    engine.Accepts view state s.createSql ⟨true, names⟩
  createIndex {index : Index} {state : σ} {names : List String} : index ∈ s.indexes →
    view state = ⟨true, names⟩ → index.name ∉ names →
    engine.Accepts view state (s.createIndexSql index) ⟨true, index.name :: names⟩
  refuse {index : Index} {state : σ} {names : List String} : index ∈ s.indexes →
    view state = ⟨true, names⟩ → index.name ∈ names →
    engine.Refuses view state (s.createIndexSql index)
  dropIndex {index : Index} {state : σ} {there : Bool} {names : List String} :
    index ∈ s.indexes → view state = ⟨there, names⟩ →
    engine.Accepts view state (Schema.dropIndexSql index.name)
      ⟨there, names.filter (· ≠ index.name)⟩
  drop {state : σ} {there : Bool} {names : List String} : view state = ⟨there, names⟩ →
    ∃ left, left ⊆ names ∧ engine.Accepts view state s.dropSql ⟨false, left⟩

end Engine

namespace Model

variable {σ : Type} {m : Model σ} {view : σ → Catalogue} {w : World σ}

/-! ## Running statements -/

/-- How the run of a call goes: the statements that it puts to the engine, whether it succeeds, and
what is true of the catalogue that it leaves. -/
def Goes (m : Model σ) (view : σ → Catalogue) (c : Call σ Unit) (w : World σ)
    (sqls : List String) (succeeds : Bool) (leaves : Catalogue → Prop) : Prop :=
  ∃ xs result w', Call.Runs m.engine c w xs result w' ∧ xs.map (·.1) = sqls.map (⟨·, []⟩) ∧
    result.isOk = succeeds ∧ leaves (view w'.engine)

theorem Goes.issued {c : Call σ Unit} {sqls : List String} {succeeds : Bool}
    {leaves : Catalogue → Prop} (h : m.Goes view c w sqls succeeds leaves) :
    c.issued w = sqls.map (⟨·, []⟩) := by
  obtain ⟨xs, result, w', run, statements, -⟩ := h
  rw [run.statements, statements]

theorem Goes.outcome {c : Call σ Unit} {sqls : List String} {succeeds : Bool}
    {leaves : Catalogue → Prop} (h : m.Goes view c w sqls succeeds leaves) :
    (c.outcome w).1.isOk = succeeds ∧ leaves (view (c.outcome w).2.engine) := by
  obtain ⟨xs, result, w', run, -, ends⟩ := h
  rw [run.outcome]
  exact ends

theorem Goes.mono {c : Call σ Unit} {sqls : List String} {succeeds : Bool}
    {leaves remains : Catalogue → Prop} (h : m.Goes view c w sqls succeeds leaves)
    (weaker : ∀ left, leaves left → remains left) : m.Goes view c w sqls succeeds remains := by
  obtain ⟨xs, result, w', run, statements, success, left⟩ := h
  exact ⟨xs, result, w', run, statements, success, weaker _ left⟩

/-- The time does not matter to how a call goes on. -/
theorem Goes.now {c : Instant → Call σ Unit} {sqls : List String} {succeeds : Bool}
    {leaves : Catalogue → Prop} (h : m.Goes view (c w.now) w sqls succeeds leaves) :
    m.Goes view (Call.now >>= c) w sqls succeeds leaves := by
  obtain ⟨xs, result, w', run, ends⟩ := h
  have now : Call.Runs m.engine Call.now w [] (.ok w.now) w := .quiet w.draws rfl
  exact ⟨xs, result, w', now.bind run, ends⟩

theorem goes_nil (w : World σ) : m.Goes view (m.runAll []) w [] true (· = view w.engine) :=
  ⟨[], .ok (), w, .pure () w, rfl, rfl, rfl⟩

/-- A statement that is accepted, and what comes after it. -/
theorem goes_cons {sql : String} {rest sqls : List String} {succeeds : Bool} {mid : Catalogue}
    {leaves : Catalogue → Prop} (accepts : m.engine.Accepts view w.engine sql mid)
    (later : ∀ w', view w'.engine = mid → m.Goes view (m.runAll rest) w' sqls succeeds leaves) :
    m.Goes view (m.runAll (sql :: rest)) w (sql :: sqls) succeeds leaves := by
  obtain ⟨reply, next, answers, seen⟩ := accepts
  obtain ⟨xs, result, w', run, statements, ends⟩ := later (answered w ⟨sql, []⟩ next) seen
  have executed : Call.Runs m.engine (m.execute ⟨sql, []⟩) w [(⟨sql, []⟩, .ok reply)] (.ok reply)
      (answered w ⟨sql, []⟩ next) := runs_execute answers
  have first : Call.Runs m.engine (do let _ ← m.execute ⟨sql, []⟩) w [(⟨sql, []⟩, .ok reply)]
      (.ok ()) (answered w ⟨sql, []⟩ next) := executed.bind (.pure () _)
  refine ⟨(⟨sql, []⟩, .ok reply) :: xs, result, w', first.bind run, ?_, ends⟩
  exact congrArg (_ :: ·) statements

/-- A statement that is refused is the last one. -/
theorem goes_refused {sql : String} (rest : List String)
    (refuses : m.engine.Refuses view w.engine sql) :
    m.Goes view (m.runAll (sql :: rest)) w [sql] false (· = view w.engine) := by
  obtain ⟨rejection, next, answers, same⟩ := refuses
  have executed : Call.Runs m.engine (m.execute ⟨sql, []⟩) w [(⟨sql, []⟩, .error rejection)]
      (.error (m.failure ⟨sql, []⟩ rejection)) (answered w ⟨sql, []⟩ next) :=
    runs_execute_rejected answers
  have first : Call.Runs m.engine (do let _ ← m.execute ⟨sql, []⟩) w
      [(⟨sql, []⟩, .error rejection)] (.error (m.failure ⟨sql, []⟩ rejection))
      (answered w ⟨sql, []⟩ next) := executed.bind_error _
  exact ⟨_, _, _, first.bind_error _, rfl, rfl, same⟩

/-- **Indexes of new names** are created one after another, before whatever comes next. -/
theorem creates (catalogues : m.engine.Catalogues m.schema view) {rest sqls : List String}
    {succeeds : Bool} {leaves : Catalogue → Prop} {indexes : List Index} :
    ∀ {names : List String} {w : World σ}, view w.engine = ⟨true, names⟩ →
      (∀ index ∈ indexes, index ∈ m.schema.indexes ∧ index.name ∉ names) →
      (indexes.map Index.name).Nodup →
      (∀ w', view w'.engine = ⟨true, (indexes.map Index.name).reverse ++ names⟩ →
        m.Goes view (m.runAll rest) w' sqls succeeds leaves) →
      m.Goes view (m.runAll (indexes.map m.schema.createIndexSql ++ rest)) w
        (indexes.map m.schema.createIndexSql ++ sqls) succeeds leaves := by
  induction indexes with
  | nil => exact fun start _ _ later => later _ start
  | cons index more ih =>
    intro names w start fresh distinct later
    obtain ⟨own, new⟩ := fresh index List.mem_cons_self
    obtain ⟨apart, distinct⟩ := List.nodup_cons.1 distinct
    apply goes_cons (catalogues.createIndex own start new)
    intro w' mid
    refine ih mid (fun other mem => ?_) distinct fun w'' last => later w'' ?_
    · obtain ⟨own, new⟩ := fresh other (List.mem_cons_of_mem index mem)
      refine ⟨own, fun taken => ?_⟩
      rcases List.mem_cons.1 taken with same | old
      · exact apart (List.mem_map.2 ⟨other, mem, same⟩)
      · exact new old
    · rw [last, List.map_cons, List.reverse_cons, List.append_assoc]
      rfl

/-- **Indexes are dropped** one after another, before whatever comes next. -/
theorem drops (catalogues : m.engine.Catalogues m.schema view) {rest sqls : List String}
    {succeeds : Bool} {leaves : Catalogue → Prop} {indexes : List Index} {there : Bool} :
    ∀ {names : List String} {w : World σ}, view w.engine = ⟨there, names⟩ →
      (∀ index ∈ indexes, index ∈ m.schema.indexes) →
      (∀ w', view w'.engine = ⟨there, names.filter (· ∉ indexes.map Index.name)⟩ →
        m.Goes view (m.runAll rest) w' sqls succeeds leaves) →
      m.Goes view
        (m.runAll (indexes.map (fun index => Schema.dropIndexSql index.name) ++ rest)) w
        (indexes.map (fun index => Schema.dropIndexSql index.name) ++ sqls) succeeds leaves := by
  induction indexes with
  | nil =>
    intro names w start _ later
    exact later w (start.trans (by simp))
  | cons index more ih =>
    intro names w start own later
    apply goes_cons (catalogues.dropIndex (own index List.mem_cons_self) start)
    intro w' mid
    refine ih mid (fun other mem => own other (List.mem_cons_of_mem index mem)) fun w'' last =>
      later w'' ?_
    rw [last, List.filter_filter]
    congr 1
    apply List.filter_congr
    intro name _
    simp [Bool.and_comm]

/-! ## Names that occur again -/

/-- Where names are not distinct, there is a first one that occurs again. -/
theorem exists_again {indexes : List Index} (repeated : ¬ (indexes.map Index.name).Nodup) :
    ∃ before again after, indexes = before ++ again :: after ∧
      (before.map Index.name).Nodup ∧ again.name ∈ before.map Index.name := by
  induction indexes using List.reverseRecOn with
  | nil => exact absurd List.Pairwise.nil repeated
  | append_singleton init last ih =>
    by_cases distinct : (init.map Index.name).Nodup
    · refine ⟨init, last, [], rfl, distinct, ?_⟩
      by_contra new
      apply repeated
      rw [List.map_append]
      exact distinct.append (List.nodup_singleton _) (by simpa using new)
    · obtain ⟨before, again, after, rfl, first, mem⟩ := ih distinct
      exact ⟨before, again, after ++ [last], by simp, first, mem⟩

/-! ## Creating and dropping the table -/

/-- A new table is created with all its indexes, if their names are distinct and free. -/
theorem createTable_completes (catalogues : m.engine.Catalogues m.schema view)
    {names : List String}
    (start : view w.engine = ⟨false, names⟩)
    (free : ∀ index ∈ m.schema.indexes, index.name ∉ names)
    (distinct : (m.schema.indexes.map Index.name).Nodup) :
    m.Goes view m.createTable w (m.schema.createSql :: m.schema.indexSql) true
      (· = ⟨true, (m.schema.indexes.map Index.name).reverse ++ names⟩) := by
  apply Goes.now
  change m.Goes view (m.runAll (m.schema.createSql :: m.schema.indexSql)) w _ _ _
  rw [← List.append_nil m.schema.indexSql]
  apply goes_cons (catalogues.create start)
  intro w' mid
  apply creates catalogues mid (fun index mem => ⟨mem, free index mem⟩) distinct
  intro w'' last
  rw [← last]
  exact goes_nil w''

/-- The first index whose name is taken ends the creation of a table. -/
theorem createTable_stops (catalogues : m.engine.Catalogues m.schema view) {names : List String}
    (start : view w.engine = ⟨false, names⟩)
    (free : ∀ index ∈ m.schema.indexes, index.name ∉ names) {before after : List Index}
    {again : Index} (split : m.schema.indexes = before ++ again :: after)
    (distinct : (before.map Index.name).Nodup) (taken : again.name ∈ before.map Index.name) :
    m.Goes view m.createTable w
      (m.schema.createSql :: (before ++ [again]).map m.schema.createIndexSql) false
      (· = ⟨true, (before.map Index.name).reverse ++ names⟩) := by
  have own {index : Index} (mem : index ∈ before ++ again :: after) : index ∈ m.schema.indexes :=
    split ▸ mem
  have first : ∀ index ∈ before, index ∈ m.schema.indexes ∧ index.name ∉ names := by
    intro index mem
    have declared := own (List.mem_append_left _ mem)
    exact ⟨declared, free index declared⟩
  apply Goes.now
  change m.Goes view (m.runAll (m.schema.createSql :: m.schema.indexSql)) w _ _ _
  rw [Schema.indexSql, split, List.map_append, List.map_append, List.map_cons, List.map_singleton]
  apply goes_cons (catalogues.create start)
  intro w' mid
  apply creates catalogues mid first distinct
  intro w'' last
  have occupied : again.name ∈ (before.map Index.name).reverse ++ names :=
    List.mem_append_left _ (List.mem_reverse.2 taken)
  rw [← last]
  apply goes_refused
  exact catalogues.refuse (own (List.mem_append_right _ List.mem_cons_self)) last occupied

/-- A table is dropped after all its indexes. -/
theorem dropTable_completes (catalogues : m.engine.Catalogues m.schema view) (w : World σ) :
    m.Goes view m.dropTable w (Migration.createTable m.schema w.now).down true
      fun left => left.table = false ∧ ∀ index ∈ m.schema.indexes, index.name ∉ left.names := by
  have own : ∀ index ∈ m.schema.indexes.reverse, index ∈ m.schema.indexes :=
    fun index mem => List.mem_reverse.1 mem
  rcases start : view w.engine with ⟨there, names⟩
  apply Goes.now
  apply drops catalogues start own
  intro w' mid
  obtain ⟨left, subset, accepts⟩ := catalogues.drop mid
  apply goes_cons accepts
  intro w'' last
  apply (goes_nil w'').mono
  rintro _ rfl
  rw [last]
  refine ⟨rfl, fun index mem kept => ?_⟩
  have absent := (List.mem_filter.1 (subset kept)).2
  simp only [decide_eq_true_eq] at absent
  exact absent (List.mem_map.2 ⟨index, List.mem_reverse.2 mem, rfl⟩)

theorem dropSql_ne (s : Schema) (name : String) : s.dropSql ≠ Schema.dropIndexSql name := by
  intro same
  have texts : "DROP TABLE IF EXISTS " ++ s.table = "DROP INDEX IF EXISTS " ++ name := same
  have letters := congrArg String.toList texts
  rw [String.toList_append, String.toList_append] at letters
  have lengths : "DROP TABLE IF EXISTS ".toList.length = "DROP INDEX IF EXISTS ".toList.length := by
    decide
  exact absurd (List.append_inj letters lengths).1 (by decide)

theorem dropIndexSql_injective : Function.Injective Schema.dropIndexSql := by
  intro name other same
  have texts : "DROP INDEX IF EXISTS " ++ name = "DROP INDEX IF EXISTS " ++ other := same
  exact (String.append_right_inj _).1 texts

/-- Each name is dropped as often as it is created. -/
theorem count_down (s : Schema) (now : Instant) (name : String) :
    (Migration.createTable s now).down.count (Schema.dropIndexSql name)
      = (s.indexes.map Index.name).count name := by
  have down : (Migration.createTable s now).down
      = (s.indexes.map Index.name).reverse.map Schema.dropIndexSql ++ [s.dropSql] := by
    rw [← List.map_reverse, List.map_map]
    rfl
  rw [down, List.count_append, List.count_map_of_injective _ _ dropIndexSql_injective,
    List.count_reverse, List.count_singleton, if_neg]
  · rfl
  · simpa using dropSql_ne s name

/-- In an engine that tells indexes apart by their names, these decide what becomes of the table of
a model. -/
structure IndexNamesDecide (m : Model σ) (view : σ → Catalogue) : Prop where
  /-- The names of the indexes are distinct exactly if the chosen ones are distinct and free, and
  the columns of the others are joined to distinct texts. -/
  apart : (m.schema.indexes.map Index.name).Nodup ↔ m.schema.IndexNamesApart
  /-- Indexes of single fields have distinct names. -/
  fields : ((m.schema.fields.filterMap (Schema.fieldIndex? m.schema.table)).map Index.name).Nodup
  /-- Columns without an underscore are joined to distinct texts if the lists of them are
  distinct. -/
  plain : ∀ unique, (∀ columns ∈ m.schema.madeOf unique, ∀ column ∈ columns,
    '_' ∉ column.toList) →
      (((m.schema.madeOf unique).map ("_".intercalate ·)).Nodup ↔ (m.schema.madeOf unique).Nodup)
  /-- The table comes first, and then the indexes in their order. -/
  up : ∀ now, (Migration.createTable m.schema now).up
    = m.schema.createSql :: m.schema.indexes.map m.schema.createIndexSql
  /-- The indexes go in the opposite order, and the table goes last. -/
  down : ∀ now, (Migration.createTable m.schema now).down
    = (m.schema.indexes.map fun index => Schema.dropIndexSql index.name).reverse
      ++ [m.schema.dropSql]
  /-- Each index is dropped exactly once if the names are distinct, and only then. -/
  once : ∀ now, (∀ index ∈ m.schema.indexes,
      (Migration.createTable m.schema now).down.count (Schema.dropIndexSql index.name) = 1)
    ↔ (m.schema.indexes.map Index.name).Nodup
  /-- Where the names are distinct, a new table is created with all its indexes. -/
  created : ∀ {w : World σ} {names : List String}, view w.engine = ⟨false, names⟩ →
    (∀ index ∈ m.schema.indexes, index.name ∉ names) →
    (m.schema.indexes.map Index.name).Nodup →
      (m.createTable.outcome w).1.isOk = true ∧
      m.createTable.issued w = (Migration.createTable m.schema w.now).up.map (⟨·, []⟩) ∧
      view (m.createTable.outcome w).2.engine
        = ⟨true, (m.schema.indexes.map Index.name).reverse ++ names⟩
  /-- Where they are not, the first one that occurs again ends the creation with an error: the table
  is there, with the indexes before this one and none after it. -/
  stopped : ∀ {w : World σ} {names : List String}, view w.engine = ⟨false, names⟩ →
    (∀ index ∈ m.schema.indexes, index.name ∉ names) →
    ¬ (m.schema.indexes.map Index.name).Nodup →
      ∃ before again after, m.schema.indexes = before ++ again :: after ∧
        (before.map Index.name).Nodup ∧ again.name ∈ before.map Index.name ∧
        (m.createTable.outcome w).1.isOk = false ∧
        m.createTable.issued w = (m.schema.createSql
          :: (before ++ [again]).map m.schema.createIndexSql).map (⟨·, []⟩) ∧
        view (m.createTable.outcome w).2.engine
          = ⟨true, (before.map Index.name).reverse ++ names⟩
  /-- Dropping is never stopped, and leaves neither the table nor an index of it. -/
  dropped : ∀ w : World σ, (m.dropTable.outcome w).1.isOk = true ∧
    m.dropTable.issued w = (Migration.createTable m.schema w.now).down.map (⟨·, []⟩) ∧
    (view (m.dropTable.outcome w).2.engine).table = false ∧
    ∀ index ∈ m.schema.indexes,
      index.name ∉ (view (m.dropTable.outcome w).2.engine).names

end Model

/-- **Tables go by the names of their indexes.** -/
theorem table_goes_by_index_names {σ : Type} {m : Model σ} {view : σ → Catalogue}
    {declared : List Field}
    (accepted : Schema.declare m.schema.table declared m.schema.options = .ok m.schema)
    (catalogues : m.engine.Catalogues m.schema view) : m.IndexNamesDecide view where
  apart := Schema.nodup_indexNames_iff m.schema
  fields := Schema.nodup_fieldNames accepted
  plain unique plain := Schema.nodup_joined_iff accepted plain
  up now := rfl
  down now := by
    rw [← List.map_reverse]
    rfl
  once now := by
    have names : (∀ index ∈ m.schema.indexes,
          (m.schema.indexes.map Index.name).count index.name = 1)
        ↔ (m.schema.indexes.map Index.name).Nodup := by
      rw [List.nodup_iff_count_eq_one]
      simp
    simpa only [Model.count_down] using names
  created start free distinct := by
    have completes := Model.createTable_completes catalogues start free distinct
    exact ⟨completes.outcome.1, completes.issued, completes.outcome.2⟩
  stopped start free repeated := by
    obtain ⟨before, again, after, split, distinct, taken⟩ := Model.exists_again repeated
    have stops := Model.createTable_stops catalogues start free split distinct taken
    exact ⟨before, again, after, split, distinct, taken, stops.outcome.1, stops.issued,
      stops.outcome.2⟩
  dropped w := by
    have completes := Model.dropTable_completes catalogues w
    exact ⟨completes.outcome.1, completes.issued, completes.outcome.2⟩

/-! ## Bookings of users -/

/-- What a statement says about tables and indexes. -/
inductive TableCommand where
  | createTable
  | createIndex (name : String)
  | dropIndex (name : String)
  | dropTable
deriving DecidableEq

/-- The command that a statement begins with. -/
def TableCommand.ofSql? (sql : String) : Option TableCommand :=
  match (Text.words sql.toList).map String.ofList with
  | "CREATE" :: "TABLE" :: _ => some .createTable
  | "CREATE" :: "INDEX" :: name :: _ => some (.createIndex name)
  | "CREATE" :: "UNIQUE" :: "INDEX" :: name :: _ => some (.createIndex name)
  | ["DROP", "INDEX", "IF", "EXISTS", name] => some (.dropIndex name)
  | "DROP" :: "TABLE" :: _ => some .dropTable
  | _ => none

/-- The engine that has nothing but a catalogue of one table. -/
def Engine.catalogue : Engine Catalogue := fun s c =>
  match TableCommand.ofSql? s.sql with
  | some .createTable =>
    if c.table then (.error ⟨"table already exists"⟩, c) else (.ok {}, ⟨true, c.names⟩)
  | some (.createIndex name) =>
    if !c.table then (.error ⟨"no such table"⟩, c)
    else if name ∈ c.names then (.error ⟨"index " ++ name ++ " already exists"⟩, c)
    else (.ok {}, ⟨true, name :: c.names⟩)
  | some (.dropIndex name) => (.ok {}, ⟨c.table, c.names.filter (· ≠ name)⟩)
  | some .dropTable => (.ok {}, ⟨false, []⟩)
  | none => (.ok {}, c)

/-- It keeps the catalogue of every schema whose statements it can read. -/
theorem Engine.catalogues_catalogue {s : Schema}
    (table : TableCommand.ofSql? s.createSql = some .createTable ∧
      TableCommand.ofSql? s.dropSql = some .dropTable)
    (indexes : ∀ index ∈ s.indexes,
      TableCommand.ofSql? (s.createIndexSql index) = some (.createIndex index.name) ∧
        TableCommand.ofSql? (Schema.dropIndexSql index.name) = some (.dropIndex index.name)) :
    Engine.catalogue.Catalogues s id where
  create {state names} start := by
    obtain rfl : state = ⟨false, names⟩ := start
    exact ⟨{}, ⟨true, names⟩, by simp [catalogue, table.1], rfl⟩
  createIndex {index state names} own start free := by
    obtain rfl : state = ⟨true, names⟩ := start
    exact ⟨{}, ⟨true, index.name :: names⟩, by simp [catalogue, (indexes index own).1, free], rfl⟩
  refuse {index state names} own start taken := by
    obtain rfl : state = ⟨true, names⟩ := start
    exact ⟨⟨"index " ++ index.name ++ " already exists"⟩, ⟨true, names⟩,
      by simp [catalogue, (indexes index own).1, taken], rfl⟩
  dropIndex {index state there names} own start := by
    obtain rfl : state = ⟨there, names⟩ := start
    exact ⟨{}, ⟨there, names.filter (· ≠ index.name)⟩,
      by simp [catalogue, (indexes index own).2], rfl⟩
  drop {state there names} start := by
    obtain rfl : state = ⟨there, names⟩ := start
    exact ⟨[], List.nil_subset names, {}, ⟨false, []⟩, by simp [catalogue, table.2], rfl⟩

/-- The fields of bookings: the column `user_id` has an index of its own. -/
def bookingFields : List Field :=
  [.id "id", { name := "user", kind := .string },
    { name := "user_id", kind := .number, indexed := true }]

/-- A table of bookings with an index over `user` and `id`. -/
def bookings : Model Catalogue where
  schema := ⟨"bookings", bookingFields, { indexes := [{ fields := ["user", "id"] }] },
    ⟨0, by decide⟩⟩
  engine := Engine.catalogue

/-- The statements for bookings can be read. -/
theorem catalogues_bookings : bookings.engine.Catalogues bookings.schema id := by
  refine Engine.catalogues_catalogue ⟨by decide +kernel, by decide +kernel⟩ ?_
  decide +kernel

theorem bookings_indexNames_decide :
    Schema.declare bookings.schema.table bookingFields bookings.schema.options
        = .ok bookings.schema ∧
      bookings.engine.Catalogues bookings.schema id ∧ bookings.IndexNamesDecide id := by
  have accepted :
      Schema.declare bookings.schema.table bookingFields bookings.schema.options
        = .ok bookings.schema :=
    rfl
  exact ⟨accepted, catalogues_bookings, table_goes_by_index_names accepted catalogues_bookings⟩

/-- **Bookings stop half way**: the index over `user` and `id` is given the name that the index of
`user_id` has. -/
theorem bookings_stop :
    Schema.declare bookings.schema.table bookingFields bookings.schema.options
        = .ok bookings.schema ∧
      bookings.schema.indexes = [⟨"idx_bookings_user_id", ["user_id"], false⟩,
        ⟨"idx_bookings_user_id", ["user", "id"], false⟩] ∧
      ¬ (bookings.schema.indexes.map Index.name).Nodup ∧
      (bookings.createTable.outcome ⟨⟨false, []⟩, default, [], []⟩).1.isOk = false ∧
      (bookings.createTable.outcome ⟨⟨false, []⟩, default, [], []⟩).2.engine
        = ⟨true, ["idx_bookings_user_id"]⟩ ∧
      (Migration.createTable bookings.schema default).down
        = ["DROP INDEX IF EXISTS idx_bookings_user_id", "DROP INDEX IF EXISTS idx_bookings_user_id",
          "DROP TABLE IF EXISTS bookings"] := by
  refine ⟨rfl, ?_, ?_, ?_, ?_, ?_⟩ <;> decide +kernel

end RecordMapper
