import Mathlib.Algebra.Order.Ring.Nat
import Mathlib.Data.List.Basic
import Mathlib.Tactic.Ring

/-!
# Machine words as byte strings

Contracts hash the big-endian bytes of machine words.  Words of one width have
encodings of one length, so a concatenation of them can be taken apart again.
-/

namespace WordBytes

abbrev Bytes : Type := List UInt8

/-- The `count` low bytes of a number, most significant byte first. -/
def bigEndian : ℕ → ℕ → Bytes
  | 0, _ => []
  | count + 1, number => bigEndian count (number / 256) ++ [UInt8.ofNat number]

/-- The number that big-endian bytes denote. -/
def value (bytes : Bytes) : ℕ :=
  bytes.foldl (fun number byte => 256 * number + byte.toNat) 0

@[simp] theorem length_bigEndian (count number : ℕ) :
    (bigEndian count number).length = count := by
  induction count generalizing number with
  | zero => rfl
  | succ count ih => simp [bigEndian, ih]

theorem value_append_byte (bytes : Bytes) (byte : UInt8) :
    value (bytes ++ [byte]) = 256 * value bytes + byte.toNat := by
  simp [value, List.foldl_append]

theorem value_bigEndian (count number : ℕ) :
    value (bigEndian count number) = number % 256 ^ count := by
  induction count generalizing number with
  | zero => simp [bigEndian, value, Nat.mod_one]
  | succ count ih =>
      have lowByte : (UInt8.ofNat number).toNat = number % 256 := by simp
      rw [bigEndian, value_append_byte, ih, lowByte, pow_succ', Nat.mod_mul]
      ring

def ofWord {width : ℕ} (word : BitVec width) : Bytes :=
  bigEndian (width / 8) word.toNat

@[simp] theorem length_ofWord {width : ℕ} (word : BitVec width) :
    (ofWord word).length = width / 8 :=
  length_bigEndian _ _

theorem ofWord_injective {width : ℕ} (wholeBytes : 8 ∣ width) :
    Function.Injective (@ofWord width) := by
  obtain ⟨count, rfl⟩ := wholeBytes
  have recovered : ∀ word : BitVec (8 * count), value (ofWord word) = word.toNat := by
    intro word
    have bounded : word.toNat < 256 ^ count := by
      have below := word.isLt
      rwa [pow_mul] at below
    have countBytes : 8 * count / 8 = count := by omega
    rw [ofWord, value_bigEndian, countBytes, Nat.mod_eq_of_lt bounded]
  intro first second equal
  apply BitVec.eq_of_toNat_eq
  rw [← recovered first, ← recovered second, equal]

/-- Words one after the other, each in full. -/
def ofWords {width : ℕ} (words : List (BitVec width)) : Bytes :=
  words.flatMap ofWord

theorem ofWord_append_inj {width : ℕ} (wholeBytes : 8 ∣ width)
    {first second : BitVec width} {rest rest' : Bytes}
    (equal : ofWord first ++ rest = ofWord second ++ rest') :
    first = second ∧ rest = rest' := by
  have parts := List.append_inj equal (by simp)
  exact ⟨ofWord_injective wholeBytes parts.1, parts.2⟩

theorem ofWords_injective {width : ℕ} (wholeBytes : 8 ∣ width) (positive : 0 < width) :
    Function.Injective (@ofWords width) := by
  have nonempty : 0 < width / 8 := Nat.div_pos (Nat.le_of_dvd positive wholeBytes) (by omega)
  intro words words' equal
  induction words generalizing words' with
  | nil =>
      cases words' with
      | nil => rfl
      | cons word rest =>
          have lengths := congrArg List.length equal
          simp only [ofWords, List.flatMap_nil, List.flatMap_cons, List.length_nil,
            List.length_append, length_ofWord] at lengths
          omega
  | cons word rest ih =>
      cases words' with
      | nil =>
          have lengths := congrArg List.length equal
          simp only [ofWords, List.flatMap_nil, List.flatMap_cons, List.length_nil,
            List.length_append, length_ofWord] at lengths
          omega
      | cons word' rest' =>
          have heads : ofWord word ++ ofWords rest = ofWord word' ++ ofWords rest' := equal
          obtain ⟨sameWord, sameRest⟩ := ofWord_append_inj wholeBytes heads
          rw [sameWord, ih sameRest]

end WordBytes
