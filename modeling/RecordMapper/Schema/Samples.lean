import RecordMapper.Schema.Basic

/-!
# Sample schemas

Three tables that between them use every feature of a schema: `users` with a unique email, an age
range and timestamps; `posts` with a reference to users, a document and kept deletions; `products`
with a choice of categories and an index over two columns.
-/

namespace RecordMapper.Sample

/-- The bound `n` of a number field. -/
def bound (n : Nat) : Option Binary64 :=
  some (.ofNat n)

/-- A literal default. -/
def literal (v : Value) : Option Default :=
  some (.literal v)

/-- The categories of products. -/
def productCategories : List Value :=
  [.text "tools", .text "garden", .text "kitchen"]

/-- The table `users`. -/
def users : Except Error Schema :=
  Schema.declare "users"
    [.id "id",
     { name := "email", kind := .string, required := true, unique := true, maxLength := some 254 },
     { name := "name", kind := .string, maxLength := some 100 },
     { name := "age", kind := .number, min := bound 13, max := bound 120 },
     { name := "status", kind := .string, default? := literal (.text "active") },
     { name := "verified", kind := .boolean }]
    { timestamps := true }

/-- The table `posts`. -/
def posts : Except Error Schema :=
  Schema.declare "posts"
    [.id "id",
     { name := "author_id", kind := .number, required := true, indexed := true
       relation := some { table := "users", field := "id", onDelete := .cascade } },
     { name := "title", kind := .string, required := true, minLength := some 1 },
     { name := "body", kind := .text },
     { name := "published", kind := .boolean, default? := literal (.bool false) },
     { name := "tags", kind := .json },
     { name := "views", kind := .number, default? := literal (.int 0) }]
    { timestamps := true, softDelete := true }

/-- The table `products`. -/
def products : Except Error Schema :=
  Schema.declare "products"
    [.id "id",
     { name := "sku", kind := .string, required := true, unique := true },
     { name := "name", kind := .string, required := true },
     { name := "price", kind := .number, required := true, min := bound 0 },
     { name := "quantity", kind := .number, default? := literal (.int 0) },
     { name := "category", kind := .string, indexed := true, choices := some productCategories }]
    { indexes := [{ fields := ["category", "price"] }] }

end RecordMapper.Sample
