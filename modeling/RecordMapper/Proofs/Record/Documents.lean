import Mathlib.Data.Option.Basic
import RecordMapper.Proofs.Binary64.Rounding
import RecordMapper.Proofs.Document.Entries
import RecordMapper.Proofs.Document.ReadBack
import RecordMapper.Proofs.Record.Edits
import RecordMapper.Proofs.Text.Bytes

/-!
# Records and documents

What is left of a record that is made an object and read again.

* `Value.Plain`: the values that are never mistaken for others. They come back as they were
  (`Value.Plain.ofDocument_toDocument`).
* `Value.ComesBack`: what a value comes back as, which is plain in any case.
* `Record.entries_ofObject`: the record of an object has the entries of the object, in their order.
* `Record.comes_back`: a record comes back with the same names, in the order of their bytes, and is
  not changed by going that way once more.
-/

namespace RecordMapper

namespace Value

/-- The values that are never mistaken for others: no instants, no floats that are not finite, and
of the documents only arrays and objects. -/
inductive Plain : Value → Prop
  | null : Plain .null
  | bool (b : Bool) : Plain (.bool b)
  | int (n : Int64) : Plain (.int n)
  | finite (x : Finite) : Plain (.float (.finite x))
  | text (s : String) : Plain (.text s)
  | array (items : List Document) : Plain (.document (.array items))
  | object (entries : List (String × Document)) : Plain (.document (.object entries))

/-- The first value comes back as the second. -/
inductive ComesBack : Value → Value → Prop
  /-- A plain value comes back as it was. -/
  | plain {v : Value} (h : v.Plain) : ComesBack v v
  /-- An instant comes back as its canonical text. -/
  | instant (t : Instant) : ComesBack (.instant t) (.text t.canonical)
  /-- What is not a number comes back as null. -/
  | nan : ComesBack (.float .nan) .null
  /-- So do the infinities. -/
  | infinite (negative : Bool) : ComesBack (.float (.infinite negative)) .null
  /-- The document `null` comes back as null. -/
  | nullDocument : ComesBack (.document .null) .null
  /-- A document that is a truth value comes back as that. -/
  | boolDocument (b : Bool) : ComesBack (.document (.bool b)) (.bool b)
  /-- A document that is a text comes back as that. -/
  | textDocument (s : String) : ComesBack (.document (.text s)) (.text s)
  /-- A document that is a float comes back as that. -/
  | floatDocument (x : Finite) : ComesBack (.document (.number (.float x))) (.float (.finite x))
  /-- A document that is a whole number comes back as that, if it is one of the signed words. -/
  | wholeDocument (n : Int64) : ComesBack (.document (.ofInt64 n)) (.int n)
  /-- Beyond the signed words it comes back as the float that it is rounded to. -/
  | unsignedDocument {n : Whole} (beyond : 2 ^ 63 ≤ n.val) {x : Finite}
    (rounded : Binary64.ofInt n.val = .finite x) (nearest : Binary64.Rounds n.val x) :
    ComesBack (.document (.number (.whole n))) (.float (.finite x))

theorem ofDocument_ofInt64 (n : Int64) : ofDocument (.ofInt64 n) = .int n := by
  have bound : n.toInt < 0x8000000000000000 := n.toInt_lt
  rw [Document.ofInt64, ofDocument, if_pos bound, Int64.ofInt_toInt]

/-- A whole number is a signed word, or else it is beyond them and rounded. -/
theorem comesBack_whole (n : Whole) :
    ComesBack (.document (.number (.whole n))) (ofDocument (.number (.whole n))) := by
  by_cases small : n.val < 0x8000000000000000
  · have word : Document.ofInt64 (Int64.ofInt n.val) = .number (.whole n) := by
      rw [Document.ofInt64]
      congr
      exact Int64.toInt_ofInt_of_le n.property.1 small
    rw [← word, ofDocument_ofInt64]
    exact .wholeDocument _
  · have bound : n.val.natAbs ≤ 2 ^ 64 := by
      have := n.property
      omega
    obtain ⟨x, rounded, nearest⟩ := Binary64.rounds_ofInt bound
    rw [ofDocument, if_neg small, rounded]
    exact .unsignedDocument (by omega) rounded nearest

/-- **What a value comes back as.** -/
theorem comesBack_ofDocument : ∀ v : Value, ComesBack v (ofDocument v.toDocument)
  | .null => .plain .null
  | .bool b => .plain (.bool b)
  | .int n => (ofDocument_ofInt64 n).symm ▸ .plain (.int n)
  | .float .nan => .nan
  | .float (.infinite negative) => .infinite negative
  | .float (.finite x) => .plain (.finite x)
  | .text s => .plain (.text s)
  | .instant t => .instant t
  | .document .null => .nullDocument
  | .document (.bool b) => .boolDocument b
  | .document (.number (.whole n)) => comesBack_whole n
  | .document (.number (.float x)) => .floatDocument x
  | .document (.text s) => .textDocument s
  | .document (.array items) => .plain (.array items)
  | .document (.object entries) => .plain (.object entries)

/-- Whatever comes back is plain. -/
theorem ComesBack.isPlain {v w : Value} (h : ComesBack v w) : w.Plain := by
  cases h with
  | plain h => exact h
  | instant | textDocument => exact .text _
  | nan | infinite | nullDocument => exact .null
  | boolDocument => exact .bool _
  | floatDocument | unsignedDocument => exact .finite _
  | wholeDocument => exact .int _

/-- **Plain values come back** as they were. -/
theorem Plain.ofDocument_toDocument {v : Value} (h : v.Plain) : ofDocument v.toDocument = v := by
  cases h with
  | int n => exact ofDocument_ofInt64 n
  | null | bool | finite | text | array | object => rfl

end Value

namespace Record

/-- The entries of an object as those of a record. -/
theorem names_ofDocument (entries : List (String × Document)) :
    Entries.names (entries.map fun entry => (entry.1, Value.ofDocument entry.2))
      = entries.map (·.1) := by
  rw [Entries.names, List.map_map]
  rfl

/-- **The record of an object has the entries of the object**, in their order. -/
theorem entries_ofObject {entries : List (String × Document)}
    (ordered : entries.Pairwise fun a b => a.1 < b.1) :
    (ofObject entries).entries = entries.map fun entry => (entry.1, Value.ofDocument entry.2) := by
  refine entries_foldl_set _ empty ?_
  have distinct : (entries.map (·.1)).Nodup :=
    List.pairwise_map.2 (ordered.imp String.ne_of_lt)
  rw [names_ofDocument]
  exact distinct

/-- The names of a record in order have their places in its object. -/
theorem ofDocument_toDocument_of_ordered {r : Record}
    (ordered : r.fields.Pairwise (· < ·)) (plain : ∀ entry ∈ r.entries, entry.2.Plain) :
    ofDocument r.toDocument = .ok r := by
  have placed : (r.entries.map fun entry => (entry.1, entry.2.toDocument)).Pairwise
      fun a b => a.1 < b.1 :=
    List.pairwise_map.2 (List.pairwise_map.1 ordered)
  have same : (r.entries.map fun entry => (entry.1, entry.2.toDocument)).map
      (fun entry => (entry.1, Value.ofDocument entry.2)) = r.entries := by
    rw [List.map_map]
    refine (List.map_congr_left fun entry he => ?_).trans r.entries.map_id
    exact Prod.ext rfl (plain entry he).ofDocument_toDocument
  rw [toDocument, Document.ofEntries_ordered placed, ofDocument, ofObject, same, ofEntries_entries]

/-- **A record is read from its object** with its entries rearranged in the order of their names,
and every value as it comes back. -/
theorem exists_ofDocument_toDocument (r : Record) : ∃ back, ofDocument r.toDocument = .ok back ∧
    back.entries.Perm (r.mapValues fun _ v => Value.ofDocument v.toDocument).entries ∧
    back.fields.Pairwise (· < ·) := by
  obtain ⟨sent, hs⟩ : ∃ sent, sent = r.entries.map fun entry => (entry.1, entry.2.toDocument) :=
    ⟨_, rfl⟩
  have distinct : (sent.map (·.1)).Nodup := by
    rw [hs, List.map_map]
    exact r.nodup
  have held := entries_ofObject (Document.pairwise_collected sent)
  refine ⟨ofObject (Document.collected sent), ?_, ?_, ?_⟩
  · rw [toDocument, ← hs, Document.ofEntries_eq, ofDocument]
  · rw [held]
    refine ((Document.perm_collected distinct).map _).trans (.of_eq ?_)
    rw [hs, List.map_map]
    rfl
  · rw [fields, held, names_ofDocument]
    exact List.pairwise_map.2 (Document.pairwise_collected sent)

/-- What a record comes back as. -/
structure ComesBack (r back : Record) : Prop where
  /-- The names are the same, each once. -/
  names : back.fields.Perm r.fields
  /-- They stand in the order of their bytes. -/
  ordered : back.fields.Pairwise fun a b => Text.bytes a < Text.bytes b
  /-- Every value has come back. -/
  values : ∀ name, Option.Rel Value.ComesBack (r.get? name) (back.get? name)
  /-- A plain value is the same. -/
  plain : ∀ name v, v.Plain → r.get? name = some v → back.get? name = some v
  /-- To go that way once more changes nothing. -/
  settled : ofDocument back.toDocument = .ok back

end Record

/-- **Every record comes back** from the object that it is sent as. -/
theorem records_come_back (r : Record) :
    ∃ back, Record.ofDocument r.toDocument = .ok back ∧ r.ComesBack back := by
  obtain ⟨back, read, rearranged, increasing⟩ := r.exists_ofDocument_toDocument
  have value (name : String) :
      back.get? name = (r.get? name).map fun v => Value.ofDocument v.toDocument :=
    (Record.get?_of_perm rearranged name).trans (Record.get?_mapValues _ r name)
  have plain : ∀ entry ∈ back.entries, entry.2.Plain := by
    intro entry he
    obtain ⟨old, -, same⟩ := List.mem_map.1 (rearranged.mem_iff.1 he)
    exact same ▸ old.2.comesBack_ofDocument.isPlain
  refine ⟨back, read, ?_⟩
  constructor
  case names =>
    have names : back.fields.Perm (r.mapValues fun _ v => Value.ofDocument v.toDocument).fields :=
      rearranged.map Prod.fst
    rwa [Record.fields_mapValues] at names
  case ordered => exact increasing.imp Text.bytes_lt
  case values =>
    intro name
    rw [value]
    cases r.get? name with
    | none => exact .none
    | some v => exact .some v.comesBack_ofDocument
  case plain =>
    intro name v unchanged here
    rw [value, here, Option.map_some, unchanged.ofDocument_toDocument]
  case settled => exact Record.ofDocument_toDocument_of_ordered increasing plain

/-- A whole number comes back under its name, though others come to stand before it. -/
theorem mixed_record_comes_back :
    let mixed : Record := .ofEntries
      [("é", .int 1), ("rate", .float (.infinite true)), ("Z", .document (.bool true))]
    mixed.get? "é" = some (.int 1) ∧ (Value.int 1).Plain ∧
      ∃ back, Record.ofDocument mixed.toDocument = .ok back ∧ mixed.ComesBack back ∧
        back.get? "é" = some (.int 1) := by
  intro mixed
  have held : mixed.get? "é" = some (.int 1) := by decide +kernel
  obtain ⟨back, read, comes⟩ := records_come_back mixed
  exact ⟨held, .int 1, back, read, comes, comes.plain "é" (.int 1) (.int 1) held⟩

example : Record.ofDocument (Record.toDocument
    (.ofEntries [("é", .int 1), ("rate", .float (.infinite true)), ("Z", .document (.bool true))]))
      = .ok (.ofEntries [("Z", .bool true), ("rate", .null), ("é", .int 1)]) := by
  decide +kernel

end RecordMapper
