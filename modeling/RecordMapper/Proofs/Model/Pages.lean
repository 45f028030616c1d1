import RecordMapper.Proofs.Hooks.Pursuit

/-!
# Pages

Rows are given page by page: they are counted, and the rows in the window of the page are found.

* `Query.window` is what the limit and the offset of a query leave of some rows, and
  `Query.window_page` says this of a page. Places of rows go up to the greatest word, so that a page
  whose offset is cut off there has none.
* `Page.shown` are the places of a page. `Page.lt_totalPages` compares the number of pages with the
  number of counted rows, and `Page.covers` says what all pages together have.
* `Model.Paginated` is what is said of a page and how that ends, and `Model.unfolding_paginate` that
  this is so for any engine and any hooks.
* `pages_cover_rows` puts both together.
-/

namespace RecordMapper

/-! ## Windows -/

/-- The rows in the window of a query. -/
def Query.window {α : Type} (q : Query) (rows : List α) : List α :=
  let rest := rows.drop (q.offset.elim 0 UInt64.toNat)
  q.limit.elim rest fun limit => rest.take limit.toNat

/-- What is counted does not depend on the ordering and the window. -/
@[simp] theorem Query.count_clearPaging (q : Query) : q.clearPaging.count = q.count := rfl

/-- The page with the number zero is the first one. -/
theorem Query.page_max (q : Query) (n perPage : UInt64) :
    q.page (max n 1) perPage = q.page n perPage := by
  have before : (max n 1).toNat - 1 = n.toNat - 1 := by
    rw [UInt64.toNat_max]
    have one : (1 : UInt64).toNat = 1 := rfl
    omega
  rw [Query.page, Query.page, pageOffset, pageOffset, before]

/-- An offset is the number of rows before the page, or the greatest word. -/
theorem Query.toNat_pageOffset (n perPage : UInt64) :
    (pageOffset n perPage).toNat = min ((n.toNat - 1) * perPage.toNat) (UInt64.size - 1) := by
  have below : min ((n.toNat - 1) * perPage.toNat) (UInt64.size - 1) < 2 ^ 64 :=
    Nat.lt_of_le_of_lt (Nat.min_le_right ..) (by decide)
  rw [pageOffset, UInt64.toNat_ofNat', Nat.mod_eq_of_lt below]

/-- **The window of a page**, of no more rows than can be counted: an offset that is cut off at the
greatest word is behind all of them. -/
theorem Query.window_page {α : Type} (q : Query) (n perPage : UInt64) {rows : List α}
    (counted : rows.length < UInt64.size) :
    (q.page n perPage).window rows
      = (rows.drop ((n.toNat - 1) * perPage.toNat)).take perPage.toNat := by
  have offset : (q.page n perPage).window rows
      = (rows.drop (pageOffset n perPage).toNat).take perPage.toNat := rfl
  rw [offset, toNat_pageOffset]
  rcases Nat.lt_or_ge ((n.toNat - 1) * perPage.toNat) UInt64.size with fits | beyond
  · rw [Nat.min_eq_left (by omega)]
  · rw [Nat.min_eq_right (by omega), List.drop_of_length_le (by omega),
      List.drop_of_length_le (by omega)]

/-- Windows that follow each other have all rows up to the end of the last one. -/
theorem flatMap_windows {α : Type} (size : Nat) (rows : List α) (count : Nat) :
    (List.range count).flatMap (fun k => (rows.drop (k * size)).take size)
      = rows.take (count * size) := by
  induction count with
  | zero => simp
  | succ k ih =>
    rw [List.range_succ, List.flatMap_append, ih, List.flatMap_singleton, Nat.succ_mul,
      List.take_add]

/-! ## The pages of the counted rows -/

namespace Page

/-- The places, among all counted rows, that the page with a number shows. -/
def shown (p : Page) (q : Query) (n : UInt64) : List Nat :=
  (q.page n p.perPage).window (List.range p.total.toNat)

variable {p : Page} {q : Query} {n : UInt64} {i : Nat}

/-- The places of a page follow each other. -/
theorem shown_eq : p.shown q n = List.range' ((n.toNat - 1) * p.perPage.toNat)
    (min ((n.toNat - 1) * p.perPage.toNat + p.perPage.toNat) p.total.toNat
      - (n.toNat - 1) * p.perPage.toNat) := by
  have counted : (List.range p.total.toNat).length < UInt64.size := by
    rw [List.length_range]
    exact p.total.toNat_lt
  rw [shown, Query.window_page q n p.perPage counted, List.take_drop, List.take_range,
    List.range_eq_range', List.drop_range', Nat.zero_add, Nat.mul_one]

theorem mem_shown : i ∈ p.shown q n ↔ (n.toNat - 1) * p.perPage.toNat ≤ i ∧
    i < (n.toNat - 1) * p.perPage.toNat + p.perPage.toNat ∧ i < p.total.toNat := by
  rw [shown_eq, List.mem_range'_1]
  omega

theorem length_shown : (p.shown q n).length
    = min p.perPage.toNat (p.total.toNat - (n.toNat - 1) * p.perPage.toNat) := by
  rw [shown_eq, List.length_range']
  omega

/-! ### The number of pages -/

/-- A number that follows another one is not zero. -/
theorem first_of_lt {k n : UInt64} (h : k < n) : 1 ≤ n :=
  UInt64.le_iff_toNat_le.2 (Nat.lt_of_le_of_lt (Nat.zero_le _) (UInt64.lt_iff_toNat_lt.1 h))

theorem perPage_pos (some : p.perPage ≠ 0) : 0 < p.perPage.toNat :=
  Nat.pos_of_ne_zero fun none => some (UInt64.toNat_inj.1 none)

/-- **The number of pages** is the quotient rounded up, which is a word. -/
theorem toNat_totalPages (some : p.perPage ≠ 0) :
    p.totalPages.toNat = (p.total.toNat + (p.perPage.toNat - 1)) / p.perPage.toNat := by
  -- There are not more pages than rows.
  have few : (p.total.toNat + (p.perPage.toNat - 1)) / p.perPage.toNat ≤ p.total.toNat := by
    rcases Nat.eq_zero_or_pos p.total.toNat with none | one
    · rw [none, Nat.zero_add]
      exact Nat.le_of_eq (Nat.div_eq_of_lt (Nat.sub_one_lt_of_lt (perPage_pos some)))
    · refine Nat.div_le_of_le_mul ?_
      have many := Nat.le_mul_of_pos_right (p.perPage.toNat - 1) one
      rw [Nat.sub_one_mul] at many
      have least := Nat.le_mul_of_pos_left p.total.toNat (perPage_pos some)
      omega
  rw [totalPages, UInt64.toNat_ofNat', Nat.mod_eq_of_lt (Nat.lt_of_le_of_lt few p.total.toNat_lt)]

/-- There are more than `k` pages exactly if more rows are counted than `k` pages have. -/
theorem lt_totalPages (some : p.perPage ≠ 0) {k : Nat} :
    k < p.totalPages.toNat ↔ k * p.perPage.toNat < p.total.toNat := by
  rw [toNat_totalPages some, ← Nat.succ_le_iff, Nat.le_div_iff_mul_le (perPage_pos some),
    Nat.succ_mul]
  have positive := perPage_pos some
  omega

/-- The rows end on the last page. -/
theorem total_le (some : p.perPage ≠ 0) :
    p.total.toNat ≤ p.totalPages.toNat * p.perPage.toNat :=
  Nat.not_lt.1 fun more => Nat.lt_irrefl _ ((lt_totalPages some).2 more)

/-- The numbers of pages are words. -/
theorem toNat_number {k : Nat} (h : k < p.totalPages.toNat) :
    (UInt64.ofNat (k + 1)).toNat = k + 1 := by
  rw [UInt64.toNat_ofNat', Nat.mod_eq_of_lt]
  have bound := p.totalPages.toNat_lt
  omega

/-- The offset of a page is exact, up to the last page. -/
theorem toNat_pageOffset_of_le (some : p.perPage ≠ 0) (few : n ≤ p.totalPages) :
    (Query.pageOffset n p.perPage).toNat = (n.toNat - 1) * p.perPage.toNat := by
  rw [Query.toNat_pageOffset, Nat.min_eq_left]
  rcases Nat.eq_zero_or_pos n.toNat with zero | first
  · rw [zero, Nat.zero_sub, Nat.zero_mul]
    exact Nat.zero_le _
  · have before : n.toNat - 1 < p.totalPages.toNat :=
      Nat.lt_of_lt_of_le (Nat.sub_one_lt_of_lt first) (UInt64.le_iff_toNat_le.1 few)
    have counted := (lt_totalPages some).1 before
    have bound : p.total.toNat < UInt64.size := p.total.toNat_lt
    omega

/-- A page shows something exactly if there are so many pages. -/
theorem shown_ne_nil (some : p.perPage ≠ 0) (first : 1 ≤ n) :
    p.shown q n ≠ [] ↔ n ≤ p.totalPages := by
  have positive := perPage_pos some
  have before := lt_totalPages some (k := n.toNat - 1)
  have one : 1 ≤ n.toNat := UInt64.le_iff_toNat_le.1 first
  rw [← List.length_pos_iff, length_shown, UInt64.le_iff_toNat_le]
  omega

/-! ### All pages -/

/-- The pages of a query, as many as are counted, cover the rows. -/
structure Covers (p : Page) (q : Query) : Prop where
  /-- Every row is on one page and on no other. -/
  once : ∀ i < p.total.toNat, ∃! n, (1 ≤ n ∧ n ≤ p.totalPages) ∧ i ∈ p.shown q n
  /-- The pages, one after another, are all rows in order. -/
  inOrder : ∀ {α : Type} (rows : List α), rows.length = p.total.toNat →
    (List.range p.totalPages.toNat).flatMap
      (fun k => (q.page (.ofNat (k + 1)) p.perPage).window rows) = rows
  /-- Every page but the last is full. -/
  full : ∀ n, 1 ≤ n → n < p.totalPages → (p.shown q n).length = p.perPage.toNat
  /-- The last page is not empty. -/
  last : p.totalPages ≠ 0 → p.shown q p.totalPages ≠ []
  /-- After the last page there is nothing. -/
  beyond : ∀ n, p.totalPages < n → p.shown q n = []
  /-- The page with the number zero is the first one. -/
  zero : q.page 0 p.perPage = q.page 1 p.perPage
  /-- A page follows exactly if a later page shows something. -/
  next : p.hasNext = true ↔ ∃ n, p.page < n ∧ p.shown q n ≠ []
  /-- A page precedes exactly if this one is not the first. -/
  previous : p.hasPrevious = true ↔ 1 < p.page
  /-- The number of pages is exact. -/
  pages : p.totalPages.toNat = (p.total.toNat + (p.perPage.toNat - 1)) / p.perPage.toNat
  /-- The window of a page is exact, up to the last page. -/
  window : ∀ n, n ≤ p.totalPages → (q.page n p.perPage).windowSql
    = " LIMIT " ++ toString p.perPage.toNat
      ++ " OFFSET " ++ toString ((n.toNat - 1) * p.perPage.toNat)
  /-- After it the offset is cut off at the greatest word. -/
  offset : ∀ n, (Query.pageOffset n p.perPage).toNat
    = min ((n.toNat - 1) * p.perPage.toNat) (UInt64.size - 1)

/-- **The pages cover the rows**, for every number of rows and every size of a page. -/
theorem covers (q : Query) (some : p.perPage ≠ 0) : p.Covers q where
  once i counted := by
    -- The page of a row is the quotient of its place, from one on.
    have start : i / p.perPage.toNat * p.perPage.toNat ≤ i := Nat.div_mul_le_self ..
    have stop : i < i / p.perPage.toNat * p.perPage.toNat + p.perPage.toNat :=
      Nat.lt_div_mul_add (perPage_pos some)
    have there : i / p.perPage.toNat < p.totalPages.toNat :=
      (lt_totalPages some).2 (Nat.lt_of_le_of_lt start counted)
    have number := toNat_number there
    refine ⟨.ofNat (i / p.perPage.toNat + 1), ⟨⟨?_, ?_⟩, ?_⟩, ?_⟩
    · rw [UInt64.le_iff_toNat_le, number]
      exact Nat.succ_pos _
    · rw [UInt64.le_iff_toNat_le, number]
      exact there
    · rw [mem_shown, number, Nat.add_sub_cancel]
      exact ⟨start, stop, counted⟩
    · rintro n ⟨⟨first, -⟩, shows⟩
      obtain ⟨start, stop, -⟩ := mem_shown.1 shows
      rw [← Nat.succ_mul] at stop
      have quotient : i / p.perPage.toNat = n.toNat - 1 := Nat.div_eq_of_lt_le start stop
      have one : 1 ≤ n.toNat := UInt64.le_iff_toNat_le.1 first
      rw [← UInt64.toNat_inj, number]
      omega
  inOrder rows counted := by
    have windows : ∀ k ∈ List.range p.totalPages.toNat,
        (q.page (.ofNat (k + 1)) p.perPage).window rows
          = (rows.drop (k * p.perPage.toNat)).take p.perPage.toNat := fun k member => by
      rw [Query.window_page q _ _ (counted ▸ p.total.toNat_lt),
        toNat_number (List.mem_range.1 member), Nat.add_sub_cancel]
    rw [List.flatMap_congr windows, flatMap_windows, List.take_of_length_le]
    exact counted ▸ total_le some
  full n first before := by
    have enough := (lt_totalPages some).1 (UInt64.lt_iff_toNat_lt.1 before)
    have one : 1 ≤ n.toNat := UInt64.le_iff_toNat_le.1 first
    obtain ⟨k, hk⟩ := Nat.exists_eq_add_of_le' one
    rw [hk, Nat.succ_mul] at enough
    rw [length_shown, hk, Nat.add_sub_cancel]
    omega
  last none :=
    (shown_ne_nil some (first_of_lt (UInt64.pos_iff_ne_zero.2 none))).2 (UInt64.le_refl _)
  beyond n behind := by
    by_contra shows
    exact absurd ((shown_ne_nil some (first_of_lt behind)).1 shows) (UInt64.not_le.2 behind)
  zero := (q.page_max 0 p.perPage).symm
  next := by
    rw [hasNext, decide_eq_true_iff]
    constructor
    · exact fun later => ⟨_, later, (shown_ne_nil some (first_of_lt later)).2 (UInt64.le_refl _)⟩
    · rintro ⟨n, later, shows⟩
      exact UInt64.lt_of_lt_of_le later ((shown_ne_nil some (first_of_lt later)).1 shows)
  previous := by rw [hasPrevious, decide_eq_true_iff]
  pages := toNat_totalPages some
  window n few := by
    rw [← toNat_pageOffset_of_le some few]
    rfl
  offset n := Query.toNat_pageOffset n p.perPage

end Page

/-! ## Asking for a page -/

/-- The number of rows that the reply to a counting statement reports. -/
def Reply.total (reply : Reply) : Except Error UInt64 :=
  match reply.first? with
  | some row => row.read "count" Value.toCount
  | none => .ok 0

/-- The query that a page is asked for: that of the options, as the hook gives it. -/
def Model.Asks {σ : Type} (m : Model σ) (options : FindOptions) (q : Query) : Prop :=
  m.queryFor options >>= consult m.hooks.beforeFind = .ok q

/-- What is said of a page, and how that ends. -/
inductive Model.Paginated {σ : Type} (m : Model σ) (page perPage : UInt64)
    (options : FindOptions) : Conversation → Except Error Page → Prop
  /-- A page has at least one row. -/
  | empty (none : perPage = 0) :
    Paginated m page perPage options [] (.error (.invalidArgument .emptyPage))
  /-- The options or the query are refused. -/
  | refused {e : Error} (some : perPage ≠ 0)
      (h : m.queryFor options >>= consult m.hooks.beforeFind = .error e) :
    Paginated m page perPage options [] (.error e)
  /-- The rows cannot be counted. -/
  | uncounted {q : Query} (some : perPage ≠ 0) (asks : m.Asks options q) (r : Rejection) :
    Paginated m page perPage options [(q.count.statement.wire, .error r)]
      (.error (m.failure q.count.statement.wire r))
  /-- What the engine reports is no number of rows. -/
  | unread {q : Query} {reply : Reply} {e : Error} (some : perPage ≠ 0)
      (asks : m.Asks options q) (h : reply.total = .error e) :
    Paginated m page perPage options [(q.count.statement.wire, .ok reply)] (.error e)
  /-- The rows cannot be found. -/
  | unfound {q : Query} {reply : Reply} {total : UInt64} (some : perPage ≠ 0)
      (asks : m.Asks options q) (h : reply.total = .ok total) (r : Rejection) :
    Paginated m page perPage options
      [(q.count.statement.wire, .ok reply),
        ((q.page page perPage).find.statement.wire, .error r)]
      (.error (m.failure (q.page page perPage).find.statement.wire r))
  /-- The records are withheld. -/
  | withheld {q : Query} {reply found : Reply} {total : UInt64} {e : Error} (some : perPage ≠ 0)
      (asks : m.Asks options q) (h : reply.total = .ok total)
      (hook : consult m.hooks.afterFind (found.rows.map m.schema.hydrate) = .error e) :
    Paginated m page perPage options
      [(q.count.statement.wire, .ok reply),
        ((q.page page perPage).find.statement.wire, .ok found)]
      (.error e)
  /-- The page is given. -/
  | given {q : Query} {reply found : Reply} {total : UInt64} {records : List Record}
      (some : perPage ≠ 0) (asks : m.Asks options q) (h : reply.total = .ok total)
      (hook : consult m.hooks.afterFind (found.rows.map m.schema.hydrate) = .ok records) :
    Paginated m page perPage options
      [(q.count.statement.wire, .ok reply),
        ((q.page page perPage).find.statement.wire, .ok found)]
      (.ok { records, total, page := Max.max page 1, perPage })

namespace Model

variable {σ α β : Type} {m : Model σ} {w : World σ}

/-- A hook says nothing to the engine. -/
theorem Unfolding.consult_bind {hook : Option (α → Except Error α)} {call : α → HookCall}
    {payload : α} {f : α → Call σ β} {S : Conversation → Except Error β → Prop}
    (refused : ∀ e, consult hook payload = .error e → S [] (.error e))
    (given : ∀ a w', consult hook payload = .ok a →
      m.Unfolding (f a) w' fun steps result => S (exchanged steps) result) :
    m.Unfolding (Call.change hook call payload >>= f) w fun steps result =>
      S (exchanged steps) result := by
  refine .change_bind (fun none => ?_) (fun g e some refuses => ?_) fun g a some changes => ?_
  · exact given payload w (by rw [none]; rfl)
  · exact refused e (by rw [some]; exact refuses)
  · exact given a _ (by rw [some]; exact changes)

/-- Counting rows is a statement of its own. -/
theorem fetchCount_bind (m : Model σ) (q : Query) (f : UInt64 → Call σ β) :
    m.fetchCount q >>= f
      = m.execute q.count.statement >>= fun reply => Call.lift reply.total >>= f := by
  rw [fetchCount, bind_assoc]
  refine bind_congr fun reply => ?_
  unfold Reply.total
  cases reply.first? <;> rfl

/-- **A page is counted and then found**, by two statements of one query. -/
theorem unfolding_paginate (m : Model σ) (page perPage : UInt64) (options : FindOptions)
    (w : World σ) :
    m.Unfolding (m.paginate page perPage options) w fun steps result =>
      m.Paginated page perPage options (exchanged steps) result := by
  unfold paginate
  split
  · next none => exact .throw (.empty none)
  next some =>
  dsimp only
  refine .lift_bind (fun e h => .refused some (by rw [h]; rfl)) fun q asked => ?_
  refine .consult_bind (fun e h => .refused some (by rw [asked]; exact h)) fun q' w₁ hook => ?_
  have asks : m.Asks options q' := by
    rw [Asks, asked]
    exact hook
  rw [fetchCount_bind, Query.count_clearPaging, Query.page_max]
  refine .execute_bind (fun r => .uncounted some asks r) fun reply w₂ _ => ?_
  refine .lift_bind (fun e h => .unread some asks h) fun total counted => ?_
  simp only [fetch, bind_assoc, pure_bind]
  refine .execute_bind (fun r => .unfound some asks counted r) fun found w₃ _ => ?_
  refine Unfolding.consult_bind (S := fun xs result => m.Paginated page perPage options
    ((_, .ok reply) :: (_, .ok found) :: xs) result) (fun e h => .withheld some asks counted h)
    fun records w₄ h => ?_
  exact .pure (.given some asks counted h)

end Model

/-- **Pages.** Rows are given page by page, in any model, with at least one row on a page. A page is
counted and found by two statements of one query, and the page with the number zero is asked for as
the first one. However many rows the engine reports, the pages up to the last one have each of them
once and in order, and all but the last are full; after it there are none. Whether a page follows or
precedes is as the numbers say, and neither the number of pages nor an offset wraps around. -/
theorem pages_cover_rows {σ : Type} (m : Model σ) (options : FindOptions) {perPage : UInt64}
    (some : perPage ≠ 0) :
    (∀ page w, m.Unfolding (m.paginate page perPage options) w fun steps result =>
      m.Paginated page perPage options (exchanged steps) result) ∧
    m.paginate 0 perPage options = m.paginate 1 perPage options ∧
    ∀ (q : Query) (p : Page), p.perPage = perPage → p.Covers q := by
  refine ⟨fun page w => m.unfolding_paginate page perPage options w, rfl, fun q p same => ?_⟩
  exact Page.covers q (same ▸ some)

/-! ### The greatest number of rows -/

/-- A table of stars. -/
def stars : Model Unit where
  schema := ⟨"stars", [.id "id", { name := "magnitude", kind := .number }], {}, 0⟩
  engine := .silent

/-- A page of as many stars as can be counted; half of them and one more are on a page. -/
def starsPage : Page where
  records := []
  total := 18446744073709551615
  page := 2
  perPage := 9223372036854775808

/-- There are two pages of stars, and the offset of the third one is cut off. -/
theorem stars_covered :
    (9223372036854775808 : UInt64) ≠ 0 ∧ starsPage.totalPages = 2 ∧
      (starsPage.shown stars.query 1).length = 9223372036854775808 ∧
      starsPage.shown stars.query 2 ≠ [] ∧ starsPage.shown stars.query 3 = [] ∧
      ¬ ∃ n, 2 < n ∧ starsPage.shown stars.query n ≠ [] := by
  have covers : starsPage.Covers stars.query :=
    (@pages_cover_rows Unit stars {} 9223372036854775808 (by decide)).2.2 _ _ rfl
  have two : starsPage.totalPages = 2 := by decide
  refine ⟨by decide, two, covers.full 1 (by decide) (by decide), ?_, covers.beyond 3 (by decide),
    fun more => ?_⟩
  · rw [← two]
    exact covers.last (by decide)
  · have next := covers.next.2 more
    rw [Page.hasNext, two] at next
    exact absurd next (by decide)

end RecordMapper
