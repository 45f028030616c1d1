import Mathlib.Data.List.Lex
import Mathlib.Data.String.Basic

/-!
# The order of texts

Texts are ordered by their characters. This is the order of their bytes in UTF-8.

* `Text.utf8EncodeChar_eq`: the bytes of a character are a leading one, that tells how many follow,
  and then the digits of its number to base 64.
* `Text.utf8EncodeChar_lt`: a lesser character has the lesser bytes, whatever comes after.
* `Text.bytes_lt`: the bytes of a text are before those of a later one.
-/

namespace RecordMapper.Text

/-- The bytes of a text in UTF-8. -/
def bytes (s : String) : List UInt8 :=
  s.toByteArray.data.toList

theorem bytes_eq (s : String) : bytes s = s.toList.flatMap String.utf8EncodeChar := by
  rw [bytes, ← String.utf8Encode_toList, List.utf8Encode, List.data_toByteArray]

theorem ofNat_lt {m n : Nat} (h : m < n) (bound : n < 256) : UInt8.ofNat m < UInt8.ofNat n := by
  rw [UInt8.lt_iff_toNat_lt, UInt8.toNat_ofNat', UInt8.toNat_ofNat', Nat.mod_eq_of_lt bound,
    Nat.mod_eq_of_lt (h.trans bound)]
  exact h

/-! ## The bytes of a character -/

theorem toNat_lt (c : Char) : c.toNat < 0x110000 := by
  have valid : c.toNat < 0xD800 ∨ 0xDFFF < c.toNat ∧ c.toNat < 0x110000 := c.valid
  omega

/-- How many bytes follow the leading one. -/
def followers (n : Nat) : Nat :=
  if n ≤ 127 then 0 else if n ≤ 2047 then 1 else if n ≤ 65535 then 2 else 3

/-- What is added to the first digits of a character's number in the leading byte. -/
def lead : Nat → Nat
  | 0 => 0
  | 1 => 192
  | 2 => 224
  | _ => 240

/-- The last `k` digits of a number to base 64, each as a byte that follows. -/
def following : Nat → Nat → List UInt8
  | 0, _ => []
  | k + 1, n => following k (n / 64) ++ [UInt8.ofNat (n % 64 + 128)]

theorem utf8EncodeChar_eq (c : Char) : String.utf8EncodeChar c
    = UInt8.ofNat (lead (followers c.toNat) + c.toNat / 64 ^ followers c.toNat)
      :: following (followers c.toNat) c.toNat := by
  have bound := toNat_lt c
  have number : c.val.toNat = c.toNat := rfl
  unfold String.utf8EncodeChar followers
  rw [number]
  generalize c.toNat = n at bound
  dsimp only
  split_ifs <;>
    simp only [lead, following, List.nil_append, List.cons_append, pow_zero,
      pow_one, Nat.div_one, Nat.zero_add, Nat.reducePow, Nat.div_div_eq_div_mul, Nat.reduceMul]
  · rw [Nat.mod_eq_of_lt (by omega), Nat.add_comm]
  · rw [Nat.mod_eq_of_lt (a := n / 4096) (by omega), Nat.add_comm]
  · rw [Nat.mod_eq_of_lt (a := n / 262144) (by omega), Nat.add_comm]

/-- Of two numbers the lesser has the lesser digits, be it only at the last places. -/
theorem following_lt (k : Nat) : ∀ {m n : Nat}, m < n → m / 64 ^ k < n / 64 ^ k ∨
    m / 64 ^ k = n / 64 ^ k ∧ ∀ more others, following k m ++ more < following k n ++ others := by
  induction k with
  | zero => exact fun h => .inl (by rwa [pow_zero, Nat.div_one, Nat.div_one])
  | succ k ih =>
    intro m n h
    rw [Nat.pow_succ', ← Nat.div_div_eq_div_mul, ← Nat.div_div_eq_div_mul]
    simp only [following, List.append_assoc]
    rcases lt_or_eq_of_le (Nat.div_le_div_right (c := 64) h.le) with front | front
    · exact (ih front).imp id fun ⟨same, less⟩ => ⟨same, fun more others => less _ _⟩
    · refine .inr ⟨by rw [front], fun more others => ?_⟩
      rw [front]
      exact List.append_left_lt (List.cons_lt_cons_iff.2 (.inl (ofNat_lt (by omega) (by omega))))

/-- The leading byte is the lesser, or else it is the same and as many bytes follow. -/
theorem lead_lt {m n : Nat} (h : m < n) (bound : n < 0x110000) :
    lead (followers m) + m / 64 ^ followers m < lead (followers n) + n / 64 ^ followers n ∨
      followers m = followers n ∧
        m / 64 ^ followers m = n / 64 ^ followers m := by
  unfold followers
  split_ifs <;> simp only [lead, true_and] <;> omega

theorem lead_add_lt {n : Nat} (bound : n < 0x110000) :
    lead (followers n) + n / 64 ^ followers n < 256 := by
  unfold followers
  split_ifs <;> simp only [lead] <;> omega

/-- **A lesser character has the lesser bytes**, whatever comes after. -/
theorem utf8EncodeChar_lt {c d : Char} (h : c < d) (more others : List UInt8) :
    String.utf8EncodeChar c ++ more < String.utf8EncodeChar d ++ others := by
  have less : c.toNat < d.toNat := h
  have bound := toNat_lt d
  have fits : lead (followers d.toNat) + d.toNat / 64 ^ followers d.toNat < 256 :=
    lead_add_lt bound
  rw [utf8EncodeChar_eq, utf8EncodeChar_eq, List.cons_append, List.cons_append,
    List.cons_lt_cons_iff]
  rcases lead_lt less bound with leading | ⟨count, same⟩
  · exact .inl (ofNat_lt leading fits)
  · rw [count] at same ⊢
    rcases following_lt (followers d.toNat) less with front | ⟨_, last⟩
    · exact absurd same front.ne
    · exact .inr ⟨by rw [same], last more others⟩

/-! ## The bytes of a text -/

/-- **Texts are ordered as their bytes are.** -/
theorem bytes_lt {s t : String} (h : s < t) : bytes s < bytes t := by
  rw [String.lt_iff_toList_lt] at h
  rw [bytes_eq, bytes_eq]
  generalize s.toList = cs at h
  generalize t.toList = ds at h
  induction h with
  | nil =>
    rw [List.flatMap_cons, utf8EncodeChar_eq]
    exact List.Lex.nil
  | cons h ih => exact List.append_left_lt ih
  | rel h => exact utf8EncodeChar_lt h _ _

end RecordMapper.Text
