import RecordMapper.Model.Bulk
import RecordMapper.Proofs.Model.Conversation

/-!
# Bulk operations in parts

A bulk operation does one thing after the other, for every item or for every chunk of them, and
accounts for each.

* `Part` is what was said about one item or chunk, and how that ended; `Part.failures` is what the
  account says of it.
* `Accounts` ties the account of a bulk operation to its parts: either every failure is collected,
  or the first one ends the operation.
* `Tallies`: the counts of the account are those of the parts that succeeded.
* `Model.follows_tallied` runs the parts one after the other. `oneItem`, `Model.deleteChunk` and
  `Model.insertChunk` are parts of this form.
* `flatten_numberedChunks`: the chunks have all the items, each with its place;
  `numberedChunks_bounds`: none is empty or too large.
-/

namespace RecordMapper

/-! ## Places of items -/

@[simp] theorem numbered_nil {α : Type} (start : Nat) : numbered (α := α) start [] = [] := rfl

@[simp] theorem numbered_cons {α : Type} (start : Nat) (x : α) (items : List α) :
    numbered start (x :: items) = (start, x) :: numbered (start + 1) items := rfl

theorem numbered_append {α : Type} (items more : List α) :
    ∀ start, numbered start (items ++ more)
      = numbered start items ++ numbered (start + items.length) more := by
  induction items with
  | nil => simp
  | cons x rest ih =>
    intro start
    rw [List.cons_append, numbered_cons, numbered_cons, ih, List.cons_append, List.length_cons,
      Nat.add_assoc, Nat.add_comm 1]

theorem map_fst_numbered {α : Type} (items : List α) :
    ∀ start, (numbered start items).map (·.1) = List.range' start items.length := by
  induction items with
  | nil => exact fun start => rfl
  | cons x rest ih =>
    intro start
    rw [numbered_cons, List.map_cons, ih, List.length_cons, List.range'_succ]

theorem map_snd_numbered {α : Type} (items : List α) :
    ∀ start, (numbered start items).map (·.2) = items := by
  induction items with
  | nil => exact fun start => rfl
  | cons x rest ih =>
    intro start
    rw [numbered_cons, List.map_cons, ih]

theorem mem_numbered {α : Type} {items : List α} {item : Nat × α} :
    item ∈ numbered 0 items ↔ items[item.1]? = some item.2 := by
  obtain ⟨place, a⟩ := item
  have placed : (a, place) ∈ items.zipIdx ↔ items[place]? = some a :=
    List.mem_zipIdx_iff_getElem?
  rw [numbered, List.mem_map, ← placed]
  constructor
  · rintro ⟨⟨_, _⟩, member, same⟩
    cases same
    exact member
  · exact fun member => ⟨(a, place), member, rfl⟩

theorem flatten_chunksOf {α : Type} (size : Nat) (items : List α) :
    (chunksOf size items).flatten = items := by
  induction items using chunksOf.induct size with
  | case1 => simp [chunksOf]
  | case2 x rest ih => rw [chunksOf, List.flatten_cons, ih, List.cons_append, List.take_append_drop]

/-- Chunks, each numbered from its place, are the items numbered in a row. -/
theorem flatten_numbered_chunks {α : Type} (size : Nat) (items : List α) :
    ∀ n, ((numbered n (chunksOf size items)).map fun (k, chunk) =>
      numbered (k * (size + 1)) chunk).flatten = numbered (n * (size + 1)) items := by
  induction items using chunksOf.induct size with
  | case1 => intro n; simp [chunksOf]
  | case2 x rest ih =>
    intro n
    -- Only the last chunk can be short, and nothing follows it.
    have next : numbered ((n + 1) * (size + 1)) (rest.drop size)
        = numbered (n * (size + 1) + (rest.take size).length + 1) (rest.drop size) := by
      by_cases short : rest.length ≤ size
      · rw [List.drop_of_length_le short, numbered_nil, numbered_nil]
      · have full : (rest.take size).length = size := by
          rw [List.length_take]
          omega
        rw [full, Nat.succ_mul, Nat.add_assoc]
    have whole := numbered_append (x :: rest.take size) (rest.drop size) (n * (size + 1))
    rw [List.cons_append, List.take_append_drop, List.length_cons, ← Nat.add_assoc] at whole
    rw [chunksOf, numbered_cons, List.map_cons, List.flatten_cons, ih, next, whole]

/-- **The chunks of a list** have all its items, each with its place. -/
theorem flatten_numberedChunks {α : Type} (size : UInt64) (items : List α) :
    (numberedChunks size items).flatten = numbered 0 items := by
  have positive : Nat.max size.toNat 1 - 1 + 1 = Nat.max size.toNat 1 :=
    Nat.sub_add_cancel (Nat.le_max_right _ _)
  have whole := flatten_numbered_chunks (Nat.max size.toNat 1 - 1) items 0
  rw [positive, Nat.zero_mul] at whole
  exact whole

theorem ne_nil_of_mem_chunksOf {α : Type} {size : Nat} {items chunk : List α}
    (h : chunk ∈ chunksOf size items) : chunk ≠ [] := by
  induction items using chunksOf.induct size with
  | case1 => simp [chunksOf] at h
  | case2 x rest ih =>
    rw [chunksOf] at h
    rcases List.mem_cons.1 h with rfl | later
    · exact List.cons_ne_nil _ _
    · exact ih later

theorem length_of_mem_chunksOf {α : Type} {size : Nat} {items chunk : List α}
    (h : chunk ∈ chunksOf size items) : chunk.length ≤ size + 1 := by
  induction items using chunksOf.induct size with
  | case1 => simp [chunksOf] at h
  | case2 x rest ih =>
    rw [chunksOf] at h
    rcases List.mem_cons.1 h with rfl | later
    · rw [List.length_cons, List.length_take]
      exact Nat.succ_le_succ (Nat.min_le_left size rest.length)
    · exact ih later

/-- A chunk is not empty, and not larger than asked for. -/
theorem numberedChunks_bounds {α : Type} {size : UInt64} {items : List α}
    {chunk : List (Nat × α)} (h : chunk ∈ numberedChunks size items) :
    chunk ≠ [] ∧ chunk.length ≤ max size.toNat 1 := by
  obtain ⟨⟨n, piece⟩, member, rfl⟩ := List.mem_map.1 h
  have piece_mem : piece ∈ chunksOf (max size.toNat 1 - 1) items :=
    List.mem_of_getElem? (mem_numbered.1 member)
  have length : ∀ start, (numbered start piece).length = piece.length := by simp [numbered]
  have some := List.length_pos_iff.2 (ne_nil_of_mem_chunksOf piece_mem)
  have few := length_of_mem_chunksOf piece_mem
  refine ⟨List.ne_nil_of_length_pos ?_, ?_⟩ <;> rw [length]
  · exact some
  · omega

/-! ## Columns of rows -/

/-- The columns of some rows are the names of their fields, each listed once. -/
theorem Model.columnsOf_lists (rows : List Record) :
    (columnsOf rows).Nodup ∧
      ∀ name, name ∈ columnsOf rows ↔ ∃ row ∈ rows, name ∈ row.fields := by
  have gathered : ∀ names columns : List String, columns.Nodup →
      (names.foldl (fun columns name =>
        if columns.contains name then columns else columns ++ [name]) columns).Nodup ∧
      ∀ name, name ∈ names.foldl (fun columns name =>
        if columns.contains name then columns else columns ++ [name]) columns ↔
          name ∈ columns ∨ name ∈ names := by
    intro names
    induction names with
    | nil => exact fun columns nodup => ⟨nodup, fun name => by simp⟩
    | cons first rest ih =>
      intro columns nodup
      rw [List.foldl_cons]
      split
      · next known =>
        obtain ⟨once, listed⟩ := ih columns nodup
        refine ⟨once, fun name => (listed name).trans ?_⟩
        have there : first ∈ columns := by simpa using known
        rw [List.mem_cons]
        exact ⟨fun h => h.imp_right .inr, fun h => h.elim .inl fun h =>
          h.elim (fun same => .inl (same ▸ there)) .inr⟩
      · next unknown =>
        have absent : first ∉ columns := by simpa using unknown
        have extended : (columns ++ [first]).Nodup := by
          rw [List.nodup_append]
          refine ⟨nodup, List.pairwise_singleton _ _, fun a ha b hb same => ?_⟩
          rw [List.mem_singleton] at hb
          exact absent (hb ▸ same ▸ ha)
        obtain ⟨once, listed⟩ := ih (columns ++ [first]) extended
        refine ⟨once, fun name => (listed name).trans ?_⟩
        rw [List.mem_append, List.mem_singleton, List.mem_cons, or_assoc]
  obtain ⟨once, listed⟩ := gathered (rows.flatMap Record.fields) [] .nil
  refine ⟨once, fun name => (listed name).trans ?_⟩
  rw [or_iff_right List.not_mem_nil, List.mem_flatMap]

/-! ## Parts -/

/-- A part of a bulk operation. -/
structure Part (β γ : Type) where
  /-- The item or chunk that it is about. -/
  item : β
  /-- What was said. -/
  conversation : Conversation
  /-- How it ended. -/
  result : Except Error γ

namespace Part

variable {β γ : Type}

/-- Whether a part ended well. -/
def Succeeds (p : Part β γ) : Prop :=
  ∃ c, p.result = .ok c

/-- What an account says of a part that failed. -/
def failures (entries : β → Error → List BulkFailure) (p : Part β γ) : List BulkFailure :=
  match p.result with
  | .ok _ => []
  | .error e => entries p.item e

/-- The account after a part. -/
def enter (count : β → γ → BulkReport → BulkReport) (entries : β → Error → List BulkFailure)
    (report : BulkReport) (p : Part β γ) : BulkReport :=
  match p.result with
  | .ok c => count p.item c report
  | .error e => report.addErrors (entries p.item e)

end Part

/-- The account of a bulk operation over some items, with its parts: `law` is what holds of what was
said about an item and how it ended, `first` is the place of an item, and `entries` are the failures
that an error adds to the account. -/
structure Accounts {β γ : Type} (law : β → Conversation → Except Error γ → Prop)
    (first : β → Nat) (entries : β → Error → List BulkFailure) (options : BulkOptions)
    (items : List β) (before : List BulkFailure) (parts : List (Part β γ)) (xs : Conversation)
    (result : Except Error BulkReport) : Prop where
  /-- The parts are all that was said. -/
  said : xs = parts.flatMap Part.conversation
  /-- Each part obeys the law. -/
  lawful : ∀ p ∈ parts, law p.item p.conversation p.result
  /-- The parts are about the items, in order. -/
  inOrder : parts.map Part.item <+: items
  /-- Where failures are collected, all items are gone through, and exactly the failures are
  listed. -/
  collected : options.continueOnError = true → parts.map Part.item = items ∧
    ∃ report, result = .ok report ∧ report.errors = before ++ parts.flatMap (Part.failures entries)
  /-- Else the operation ends with the first part that fails, if there is one. -/
  stopped : options.continueOnError = false →
    (parts.map Part.item = items ∧ (∀ p ∈ parts, p.Succeeds) ∧
      ∃ report, result = .ok report ∧ report.errors = before) ∨
    ∃ done last e n, parts = done ++ [last] ∧ (∀ p ∈ done, p.Succeeds) ∧ last.result = .error e ∧
      result = .error (.bulkAborted (first last.item) n e)

namespace Accounts

variable {β γ : Type} {law : β → Conversation → Except Error γ → Prop} {first : β → Nat}
  {entries : β → Error → List BulkFailure} {options : BulkOptions} {items : List β}
  {before : List BulkFailure} {parts : List (Part β γ)} {xs : Conversation}
  {result : Except Error BulkReport} {item : β}

/-- No items, nothing said. -/
theorem nil {report : BulkReport} (h : report.errors = before) :
    Accounts law first entries options [] before [] [] (.ok report) where
  said := rfl
  lawful := by simp
  inOrder := by simp
  collected _ := ⟨rfl, report, rfl, by simp [h]⟩
  stopped _ := .inl ⟨rfl, by simp, report, rfl, h⟩

/-- An item that succeeds, and the others. -/
theorem succeeded {ys : Conversation} {c : γ} (hl : law item ys (.ok c))
    (h : Accounts law first entries options items before parts xs result) :
    Accounts law first entries options (item :: items) before (⟨item, ys, .ok c⟩ :: parts)
      (ys ++ xs) result where
  said := by rw [h.said, List.flatMap_cons]
  lawful := by simpa [hl] using h.lawful
  inOrder := by simpa using h.inOrder
  collected goes := by
    obtain ⟨all, report, ends, listed⟩ := h.collected goes
    exact ⟨by rw [List.map_cons, all], report, ends, by simpa [Part.failures] using listed⟩
  stopped stops := by
    rcases h.stopped stops with ⟨all, well, ends⟩ | ⟨done, last, e, n, rfl, well, failed, ends⟩
    · refine .inl ⟨by rw [List.map_cons, all], ?_, ends⟩
      exact List.forall_mem_cons.2 ⟨⟨c, rfl⟩, well⟩
    · refine .inr ⟨⟨item, ys, .ok c⟩ :: done, last, e, n, rfl, ?_, failed, ends⟩
      exact List.forall_mem_cons.2 ⟨⟨c, rfl⟩, well⟩

/-- An item whose failure is collected, and the others. -/
theorem failed {ys : Conversation} {e : Error} (hl : law item ys (.error e))
    (goes : options.continueOnError = true)
    (h : Accounts law first entries options items (before ++ entries item e) parts xs result) :
    Accounts law first entries options (item :: items) before (⟨item, ys, .error e⟩ :: parts)
      (ys ++ xs) result where
  said := by rw [h.said, List.flatMap_cons]
  lawful := by simpa [hl] using h.lawful
  inOrder := by simpa using h.inOrder
  collected goes := by
    obtain ⟨all, report, ends, listed⟩ := h.collected goes
    exact ⟨by rw [List.map_cons, all], report, ends, by simpa [Part.failures] using listed⟩
  stopped stops := by
    rw [goes] at stops
    cases stops

/-- An item whose failure ends the operation. -/
theorem aborted {ys : Conversation} {e : Error} (hl : law item ys (.error e))
    (stops : options.continueOnError = false) (n : UInt64) :
    Accounts law first entries options (item :: items) before [⟨item, ys, .error e⟩] ys
      (.error (.bulkAborted (first item) n e)) where
  said := by simp
  lawful := by simpa using hl
  inOrder := by simp
  collected goes := by
    rw [stops] at goes
    cases goes
  stopped _ := .inr ⟨[], ⟨item, ys, .error e⟩, e, n, rfl, by simp, rfl, rfl⟩

/-- Where failures are collected, or there is none, all items are gone through. -/
theorem finished (h : Accounts law first entries options items before parts xs result)
    (goes : options.continueOnError = true ∨ ∀ p ∈ parts, p.Succeeds) :
    parts.map Part.item = items ∧ ∃ report, result = .ok report ∧
      report.errors = before ++ parts.flatMap (Part.failures entries) := by
  cases collects : options.continueOnError with
  | true => exact h.collected collects
  | false =>
    have well : ∀ p ∈ parts, p.Succeeds := goes.resolve_left (by simp [collects])
    have none : parts.flatMap (Part.failures entries) = [] := by
      refine List.flatMap_eq_nil_iff.2 fun p mem => ?_
      obtain ⟨c, ends⟩ := well p mem
      rw [Part.failures, ends]
    rcases h.stopped collects with ⟨all, -, report, ends, listed⟩ |
      ⟨done, last, e, n, rfl, -, failed, -⟩
    · exact ⟨all, report, ends, by rw [listed, none, List.append_nil]⟩
    · obtain ⟨c, ends⟩ := well last (by simp)
      rw [failed] at ends
      cases ends

/-- Else the last part is the only one that fails, and ends the operation. -/
theorem ended (h : Accounts law first entries options items before parts xs result)
    (stops : options.continueOnError = false) (fails : ∃ p ∈ parts, ¬ p.Succeeds) :
    ∃ done last e n, parts = done ++ [last] ∧ (∀ p ∈ done, p.Succeeds) ∧ last.result = .error e ∧
      result = .error (.bulkAborted (first last.item) n e) := by
  obtain ⟨p, mem, failed⟩ := fails
  exact (h.stopped stops).resolve_left fun ⟨_, well, _⟩ => failed (well p mem)

end Accounts

/-- The account of a bulk operation is that of its parts, entered one after another; if the
operation ends at a failure, that tells how many records the account has as done. -/
structure Tallies {β γ : Type} (count : β → γ → BulkReport → BulkReport)
    (entries : β → Error → List BulkFailure) (before : BulkReport) (parts : List (Part β γ))
    (result : Except Error BulkReport) : Prop where
  entered : ∀ report, result = .ok report →
    report = parts.foldl (Part.enter count entries) before
  completed : ∀ place n e, result = .error (.bulkAborted place n e) →
    n = (parts.foldl (Part.enter count entries) before).completed

namespace Tallies

variable {β γ : Type} {count : β → γ → BulkReport → BulkReport}
  {entries : β → Error → List BulkFailure} {before : BulkReport} {parts : List (Part β γ)}
  {result : Except Error BulkReport}

theorem nil (report : BulkReport) : Tallies count entries report [] (.ok report) where
  entered _ ends := (Except.ok.inj ends).symm
  completed _ _ _ ends := by cases ends

theorem cons {p : Part β γ}
    (h : Tallies count entries (p.enter count entries before) parts result) :
    Tallies count entries before (p :: parts) result :=
  ⟨h.entered, h.completed⟩

/-- A failure that ends the operation completes nothing. -/
theorem aborted {item : β} {ys : Conversation} {e : Error} {place : Nat} :
    Tallies count entries before [⟨item, ys, .error e⟩]
      (.error (.bulkAborted place before.completed e)) where
  entered _ ends := by cases ends
  completed _ _ _ ends := by cases ends; rfl

end Tallies

/-! ## Work -/

namespace Model

variable {σ β γ : Type} {m : Model σ}

/-- Does one thing and accounts for it. -/
def work (options : BulkOptions) (op : β → Call σ γ) (count : β → γ → BulkReport → BulkReport)
    (first : β → Nat) (entries : β → Error → List BulkFailure) (report : BulkReport)
    (item : β) : Call σ BulkReport := do
  match ← Call.attempt (op item) with
  | .ok c => return count item c report
  | .error e => Call.lift (report.fail options (first item) e (entries item e))

/-- **One thing after the other**: the operation is the account of its parts. -/
theorem follows_tallied {options : BulkOptions} {op : β → Call σ γ}
    {count : β → γ → BulkReport → BulkReport} {first : β → Nat}
    {entries : β → Error → List BulkFailure} {law : β → Conversation → Except Error γ → Prop}
    (counts : ∀ item c report, (count item c report).errors = report.errors)
    (items : List β) (lawful : ∀ item ∈ items, ∀ w, m.Follows (op item) w (law item)) :
    ∀ report w, m.Follows (items.foldlM (work options op count first entries) report) w
      fun xs result => ∃ parts,
        Accounts law first entries options items report.errors parts xs result ∧
          Tallies count entries report parts result := by
  induction items with
  | nil => exact fun report w => .pure ⟨[], .nil rfl, .nil report⟩
  | cons item rest ih =>
    intro report w
    obtain ⟨lawful, others⟩ := List.forall_mem_cons.1 lawful
    rw [List.foldlM_cons]
    simp only [work, bind_assoc]
    refine .attempt_bind (lawful w) fun ys ends w' hl _ => ?_
    cases ends with
    | ok c =>
      simp only [pure_bind]
      refine (ih others (count item c report) w').mono fun xs result ⟨parts, h, tallied⟩ => ?_
      rw [counts] at h
      exact ⟨_, .succeeded hl h, .cons (p := ⟨item, ys, .ok c⟩) tallied⟩
    | error e =>
      simp only [BulkReport.fail]
      by_cases goes : options.continueOnError = true
      · rw [if_pos goes]
        refine (ih others (report.addErrors (entries item e)) w').mono ?_
        rintro xs result ⟨parts, h, tallied⟩
        exact ⟨_, .failed hl goes h, .cons (p := ⟨item, ys, .error e⟩) tallied⟩
      · rw [if_neg goes]
        have stops := Bool.eq_false_iff.2 goes
        exact .throw ⟨_, by simpa using Accounts.aborted hl stops report.completed, .aborted⟩

/-- What is done and how it is accounted for, whatever is counted. -/
theorem follows_work {options : BulkOptions} {op : β → Call σ γ}
    {count : β → γ → BulkReport → BulkReport} {first : β → Nat}
    {entries : β → Error → List BulkFailure} {law : β → Conversation → Except Error γ → Prop}
    (counts : ∀ item c report, (count item c report).errors = report.errors)
    (lawful : ∀ item w, m.Follows (op item) w (law item)) (items : List β) (report : BulkReport)
    (w : World σ) :
    m.Follows (items.foldlM (work options op count first entries) report) w
      fun xs result => ∃ parts,
        Accounts law first entries options items report.errors parts xs result :=
  (follows_tallied counts items (fun item _ => lawful item) report w).mono
    fun _ _ ⟨parts, h, _⟩ => ⟨parts, h⟩

end Model

end RecordMapper
