import RecordMapper.Binary64.Basic

/-!
# Documents

JSON documents as values. A number is a whole number that fits a 64-bit word, signed or unsigned,
or else a finite binary64 number; the entries of an object stand in the order of their keys.

* `Document.setEntry` puts an entry into its place; an entry of the same key is replaced.
* `Document.same` is equality of content, where numbers are compared by value within their class.
* `Document.depth` is the number of arrays and objects around the innermost value.
-/

namespace RecordMapper

/-- A whole number that fits a 64-bit word, signed or unsigned. -/
abbrev Whole : Type := { n : Int // -0x8000000000000000 ≤ n ∧ n < 0x10000000000000000 }

/-- A number of a document. -/
inductive Number where
  /-- A number written without fraction and exponent that fits a word. -/
  | whole (n : Whole)
  /-- Any other number. -/
  | float (x : Finite)
deriving DecidableEq, Repr

/-- A JSON document. -/
inductive Document where
  /-- The value `null`. -/
  | null
  /-- A truth value. -/
  | bool (b : Bool)
  /-- A number. -/
  | number (n : Number)
  /-- A text. -/
  | text (s : String)
  /-- An array. -/
  | array (items : List Document)
  /-- An object, its entries in the order of their keys. -/
  | object (entries : List (String × Document))
deriving Repr, Inhabited

namespace Document

/-! ## Numbers -/

/-- The document of a signed word. -/
def ofInt64 (n : Int64) : Document :=
  .number (.whole ⟨n.toInt, by
    have h₁ := n.le_toInt
    have h₂ := n.toInt_lt
    omega⟩)

/-- The document of an unsigned word. -/
def ofUInt64 (n : UInt64) : Document :=
  .number (.whole ⟨n.toNat, by
    have h := n.toNat_lt
    omega⟩)

/-- The document of a number: `null` for NaN and the infinities. -/
def ofBinary64 : Binary64 → Document
  | .finite x => .number (.float x)
  | _ => .null

/-! ## Objects -/

/-- The entries with one more entry, which replaces an entry of the same key and otherwise goes
where the order of keys puts it. -/
def setEntry (key : String) (value : Document) :
    List (String × Document) → List (String × Document)
  | [] => [(key, value)]
  | (k, v) :: rest =>
    if k = key then (key, value) :: rest
    else if key < k then (key, value) :: (k, v) :: rest
    else (k, v) :: setEntry key value rest

/-- The object of a list of entries, of which the last with a key counts. -/
def ofEntries (entries : List (String × Document)) : Document :=
  .object (entries.foldl (fun sorted entry => setEntry entry.1 entry.2 sorted) [])

/-- The value of a key. -/
def valueAt? (key : String) (entries : List (String × Document)) : Option Document :=
  (entries.find? fun entry => entry.1 == key).map (·.2)

/-! ## Equality of content -/

/-- Whether two numbers are of one class and equal in value. -/
def sameNumber : Number → Number → Bool
  | .whole m, .whole n => m.val == n.val
  | .float x, .float y => Binary64.same (.finite x) (.finite y)
  | _, _ => false

mutual

/-- Whether two documents have the same content. -/
def same : Document → Document → Bool
  | .null, .null => true
  | .bool a, .bool b => a == b
  | .number m, .number n => sameNumber m n
  | .text s, .text t => s == t
  | .array xs, .array ys => sameItems xs ys
  | .object xs, .object ys => sameEntries xs ys
  | _, _ => false

/-- Whether two lists of documents have the same content, item by item. -/
def sameItems : List Document → List Document → Bool
  | [], [] => true
  | x :: xs, y :: ys => same x y && sameItems xs ys
  | _, _ => false

/-- Whether two lists of entries have the same keys and content, entry by entry. -/
def sameEntries : List (String × Document) → List (String × Document) → Bool
  | [], [] => true
  | (k, x) :: xs, (l, y) :: ys => k == l && same x y && sameEntries xs ys
  | _, _ => false

end

/-! ## Depth -/

mutual

/-- The number of arrays and objects that enclose the innermost value. -/
def depth : Document → Nat
  | .array items => depthItems items + 1
  | .object entries => depthEntries entries + 1
  | _ => 0

/-- The greatest depth of the items. -/
def depthItems : List Document → Nat
  | [] => 0
  | d :: rest => max (depth d) (depthItems rest)

/-- The greatest depth of the entries' values. -/
def depthEntries : List (String × Document) → Nat
  | [] => 0
  | (_, d) :: rest => max (depth d) (depthEntries rest)

end

/-! ## Decidable equality -/

mutual

/-- Decides whether two documents are equal. -/
def decideEq : (a b : Document) → Decidable (a = b)
  | .null, .null => isTrue rfl
  | .bool a, .bool b => if h : a = b then isTrue (h ▸ rfl) else isFalse (by simp [h])
  | .number a, .number b => if h : a = b then isTrue (h ▸ rfl) else isFalse (by simp [h])
  | .text a, .text b => if h : a = b then isTrue (h ▸ rfl) else isFalse (by simp [h])
  | .array a, .array b =>
    match decideItemsEq a b with
    | isTrue h => isTrue (h ▸ rfl)
    | isFalse h => isFalse (by simp [h])
  | .object a, .object b =>
    match decideEntriesEq a b with
    | isTrue h => isTrue (h ▸ rfl)
    | isFalse h => isFalse (by simp [h])
  | .null, .bool _ | .null, .number _ | .null, .text _ | .null, .array _ | .null, .object _
  | .bool _, .null | .bool _, .number _ | .bool _, .text _ | .bool _, .array _ | .bool _, .object _
  | .number _, .null | .number _, .bool _ | .number _, .text _ | .number _, .array _
  | .number _, .object _ | .text _, .null | .text _, .bool _ | .text _, .number _
  | .text _, .array _ | .text _, .object _ | .array _, .null | .array _, .bool _
  | .array _, .number _ | .array _, .text _ | .array _, .object _ | .object _, .null
  | .object _, .bool _ | .object _, .number _ | .object _, .text _ | .object _, .array _ =>
    isFalse (by simp)

/-- Decides whether two lists of documents are equal. -/
def decideItemsEq : (a b : List Document) → Decidable (a = b)
  | [], [] => isTrue rfl
  | [], _ :: _ => isFalse (by simp)
  | _ :: _, [] => isFalse (by simp)
  | x :: xs, y :: ys =>
    match decideEq x y, decideItemsEq xs ys with
    | isTrue h, isTrue h' => isTrue (h ▸ h' ▸ rfl)
    | isFalse h, _ => isFalse (by simp [h])
    | _, isFalse h => isFalse (by simp [h])

/-- Decides whether two lists of entries are equal. -/
def decideEntriesEq : (a b : List (String × Document)) → Decidable (a = b)
  | [], [] => isTrue rfl
  | [], _ :: _ => isFalse (by simp)
  | _ :: _, [] => isFalse (by simp)
  | (k, x) :: xs, (l, y) :: ys =>
    if hk : k = l then
      match decideEq x y, decideEntriesEq xs ys with
      | isTrue h, isTrue h' => isTrue (hk ▸ h ▸ h' ▸ rfl)
      | isFalse h, _ => isFalse (by simp [h])
      | _, isFalse h => isFalse (by simp [h])
    else isFalse (by simp [hk])

end

instance : DecidableEq Document := decideEq

end Document

end RecordMapper
