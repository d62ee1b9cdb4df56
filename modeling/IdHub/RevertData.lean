import IdHub.WordBytes

/-!
# Revert data and the clauses that catch it

A call that reverts returns bytes.  `try`/`catch` tells errors with a reason, panics
and anything else apart by a selector and by whether the rest decodes; what does
not decode falls through to the last clause.  A revert with a reason is caught with
that reason.
-/

namespace RevertData

open WordBytes

/-- The selector of `Error(string)`. -/
def errorSelector : Bytes := [0x08, 0xc3, 0x79, 0xa0]

/-- The selector of `Panic(uint256)`. -/
def panicSelector : Bytes := [0x4e, 0x48, 0x7b, 0x71]

inductive Clause where
  | error (reason : Bytes)
  | panic (code : BitVec 256)
  | lowLevel (data : Bytes)
  deriving DecidableEq

/-- The data of `revert(reason)`: the offset of the string, its length and its
bytes up to a whole word. -/
def ofReason (reason : Bytes) : Bytes :=
  errorSelector ++ ofWords ([0x20, BitVec.ofNat 256 reason.length] : List (BitVec 256)) ++
    reason ++ List.replicate ((32 - reason.length % 32) % 32) 0

def decodeError (data : Bytes) : Option Bytes :=
  let body := data.drop 4
  let offset := value (body.take 32)
  let text := body.drop offset
  let length := value (text.take 32)
  if data.take 4 = errorSelector ∧ 0x44 ≤ data.length ∧
      offset < 2 ^ 64 ∧ offset + 0x24 ≤ data.length ∧
      length < 2 ^ 64 ∧ offset + 0x20 + length ≤ body.length then
    some ((text.drop 32).take length)
  else none

def decodePanic (data : Bytes) : Option (BitVec 256) :=
  if data.take 4 = panicSelector ∧ 0x24 ≤ data.length then
    some (BitVec.ofNat 256 (value ((data.drop 4).take 32)))
  else none

/-- The clause that catches the data. -/
def clause (data : Bytes) : Clause :=
  match decodeError data with
  | some reason => .error reason
  | none =>
    match decodePanic data with
    | some code => .panic code
    | none => .lowLevel data

/-- The first field of a body of words, and what follows it. -/
theorem take_field (number : ℕ) (rest : Bytes) :
    (bigEndian 32 number ++ rest).take 32 = bigEndian 32 number :=
  List.take_left' (length_bigEndian 32 number)

theorem drop_field (number : ℕ) (rest : Bytes) :
    (bigEndian 32 number ++ rest).drop 32 = rest :=
  List.drop_left' (length_bigEndian 32 number)

theorem value_field {number : ℕ} (bounded : number < 2 ^ 64) :
    value (bigEndian 32 number) = number := by
  have fits : number < 256 ^ 32 := bounded.trans (by decide)
  rw [value_bigEndian, Nat.mod_eq_of_lt fits]

theorem ofReason_eq {reason : Bytes} (short : reason.length < 2 ^ 64) :
    ofReason reason = errorSelector ++ (bigEndian 32 0x20 ++ (bigEndian 32 reason.length ++
      (reason ++ List.replicate ((32 - reason.length % 32) % 32) 0))) := by
  have bounded : reason.length < 2 ^ 256 := short.trans (by decide)
  have length : ofWord (BitVec.ofNat 256 reason.length) = bigEndian 32 reason.length := by
    rw [ofWord, BitVec.toNat_ofNat, Nat.mod_eq_of_lt bounded]
  have words : ofWords ([0x20, BitVec.ofNat 256 reason.length] : List (BitVec 256)) =
      bigEndian 32 0x20 ++ bigEndian 32 reason.length := by
    rw [ofWords, List.flatMap_cons, List.flatMap_cons, List.flatMap_nil, List.append_nil,
      length]
    rfl
  rw [ofReason, words]
  simp only [List.append_assoc]

theorem decodeError_ofReason {reason : Bytes} (short : reason.length < 2 ^ 64) :
    decodeError (ofReason reason) = some reason := by
  set padding : Bytes := List.replicate ((32 - reason.length % 32) % 32) 0 with paddingEq
  have body : (ofReason reason).drop 4 = bigEndian 32 0x20 ++
      (bigEndian 32 reason.length ++ (reason ++ padding)) := by
    rw [ofReason_eq short]
    rfl
  have selector : (ofReason reason).take 4 = errorSelector := by
    rw [ofReason_eq short]
    rfl
  have lengthData : (ofReason reason).length = 68 + reason.length + padding.length := by
    rw [ofReason_eq short, ← paddingEq]
    simp only [List.length_append, length_bigEndian, errorSelector, List.length_cons,
      List.length_nil]
    omega
  have lengthBody : ((ofReason reason).drop 4).length =
      64 + reason.length + padding.length := by
    rw [List.length_drop, lengthData]
    omega
  have offset : value (((ofReason reason).drop 4).take 32) = 0x20 := by
    rw [body, take_field, value_field (by decide)]
  have text : ((ofReason reason).drop 4).drop 0x20 =
      bigEndian 32 reason.length ++ (reason ++ padding) := by
    rw [body, drop_field]
  have length : value ((bigEndian 32 reason.length ++ (reason ++ padding)).take 32) =
      reason.length := by
    rw [take_field, value_field short]
  simp only [decodeError, offset, text, length]
  rw [if_pos, drop_field, List.take_left' rfl]
  refine ⟨selector, ?_, ?_, ?_, short, ?_⟩
  · omega
  · decide
  · omega
  · omega

/-- A revert with a reason is caught with that reason. -/
theorem clause_ofReason {reason : Bytes} (short : reason.length < 2 ^ 64) :
    clause (ofReason reason) = .error reason := by
  rw [clause, decodeError_ofReason short]

end RevertData
