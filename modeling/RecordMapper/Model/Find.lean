import RecordMapper.Model.Basic

/-!
# Finding records

Looking for records, counting them, and giving them page by page.
-/

namespace RecordMapper

/-- A page of records. -/
structure Page where
  /-- The records. -/
  records : List Record
  /-- The number of records on all pages. -/
  total : UInt64
  /-- The number of this page, from 1. -/
  page : UInt64
  /-- The number of records on a full page. -/
  perPage : UInt64
deriving DecidableEq, Repr

namespace Page

/-- The number of pages: the least that holds all records. -/
def totalPages (p : Page) : UInt64 :=
  UInt64.ofNat ((p.total.toNat + (p.perPage.toNat - 1)) / p.perPage.toNat)

/-- Whether a page follows. -/
def hasNext (p : Page) : Bool :=
  p.page < p.totalPages

/-- Whether a page precedes. -/
def hasPrevious (p : Page) : Bool :=
  1 < p.page

end Page

namespace Model

variable {σ : Type}

/-- The records that the options describe. -/
def findAll (m : Model σ) (options : FindOptions) : Call σ (List Record) := do
  let q ← Call.lift (m.queryFor options)
  let q ← Call.change m.hooks.beforeFind .beforeFind q
  let records ← m.fetch q
  Call.change m.hooks.afterFind .afterFind records

/-- The first record that the options describe. -/
def findOne (m : Model σ) (options : FindOptions) : Call σ (Option Record) := do
  return (← m.findAll { options with limit := some 1 }).head?

/-- The record of a key. -/
def findById (m : Model σ) (id : Value) : Call σ (Option Record) :=
  m.findOne { filter := [.eq m.schema.keyName id] }

/-- The number of records that a filter describes. -/
def count (m : Model σ) (filter : Filter) : Call σ UInt64 := do
  let q ← Call.lift (m.queryFor { filter })
  m.fetchCount q

/-- Whether a filter describes any record. -/
def exists? (m : Model σ) (filter : Filter) : Call σ Bool := do
  return 0 < (← m.count filter)

/-- One page of the records that the options describe. Pages are numbered from 1, and page 0 counts
as page 1; the window of the page replaces that of the options. -/
def paginate (m : Model σ) (page perPage : UInt64) (options : FindOptions) : Call σ Page := do
  if perPage = 0 then throw (.invalidArgument .emptyPage)
  let page := max page 1
  let q ← Call.lift (m.queryFor options)
  let q ← Call.change m.hooks.beforeFind .beforeFind q
  let total ← m.fetchCount q.clearPaging
  let records ← m.fetch (q.page page perPage)
  let records ← Call.change m.hooks.afterFind .afterFind records
  return { records, total, page, perPage }

end Model

end RecordMapper
