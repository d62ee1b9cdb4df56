import IdHub.DAEncrypt

/-!
# What a point decodes to

`PointToMsg` drops the low ten bits of the first coordinate, whose decomposition into
254 bits is not unique: for a coordinate below `2^254 - p` the bits of the coordinate
plus `p` satisfy `Num2Bits` as well.  Other coordinates decode uniquely, and then the
message that `DAEncrypt` commits to is a function of the point.
-/

namespace IdHub

open BitSums TwistedEdwards

/-- The first coordinate without its last ten bits. -/
def messageOf (point : Fr × Fr) : Fr := ((point.1.val / 1024 : ℕ) : Fr)

/-- The coordinate has no second decomposition. -/
def NotAliased (point : Fr × Fr) : Prop := 2 ^ 254 - fieldOrder ≤ point.1.val

section Decoding

variable {lib : Circomlib} {point : Fr × Fr}

theorem pointToMsg_iff (bits : lib.BitSpec) {msg : Fr} :
    PointToMsg lib point msg ↔
      ∃ number, Decomposition point.1 number ∧ msg = ((number / 1024 : ℕ) : Fr) := by
  have shifted (toBits : Fin 254 → Fr) (areBits : ∀ i, IsBit (toBits i)) :
      ringSum (fun i : Fin 244 => toBits ⟨i.val + 10, by omega⟩) =
        ((natSum toBits / 1024 : ℕ) : Fr) := by
    rw [← cast_natSum fun i => areBits _, natSum_shift (by norm_num) toBits]
    norm_num
  constructor
  · rintro ⟨toBits, decomposed, assembled⟩
    refine ⟨natSum toBits, bits.num2Bits_254_iff.mp ⟨toBits, decomposed, rfl⟩, ?_⟩
    rw [bits.bits2Num.mp assembled]
    exact shifted toBits (bits.num2Bits.mp decomposed).1
  · rintro ⟨number, candidate, rfl⟩
    obtain ⟨toBits, decomposed, rfl⟩ := bits.num2Bits_254_iff.mpr candidate
    refine ⟨toBits, decomposed, bits.bits2Num.mpr ?_⟩
    exact (shifted toBits (bits.num2Bits.mp decomposed).1).symm

/-- A coordinate decodes uniquely unless it has a second decomposition. -/
theorem pointToMsg_unique_iff (bits : lib.BitSpec) :
    (∀ msg, PointToMsg lib point msg → msg = messageOf point) ↔ NotAliased point := by
  constructor
  · intro unique
    by_contra aliased
    have fits : point.1.val + fieldOrder < 2 ^ 254 := by
      unfold NotAliased at aliased
      omega
    have decoded : PointToMsg lib point (((point.1.val + fieldOrder) / 1024 : ℕ) : Fr) :=
      (pointToMsg_iff bits).mpr ⟨_, .inr ⟨rfl, fits⟩, rfl⟩
    have wide : 2 ^ 254 ≤ 1024 * fieldOrder := by norm_num
    have large : 1024 ≤ fieldOrder := by norm_num
    have below : (point.1.val + fieldOrder) / 1024 < fieldOrder := by omega
    have below' : point.1.val / 1024 < fieldOrder := by omega
    have same := cast_injOn_lt below below' (unique _ decoded)
    omega
  · intro notAliased msg decoded
    obtain ⟨number, rfl | ⟨rfl, fits⟩, rfl⟩ := (pointToMsg_iff bits).mp decoded
    · rfl
    · unfold NotAliased at notAliased
      omega

/-- Exactly the coordinates from `2^254 - p` on decode uniquely, and a message point or
a PRF point with such a coordinate determines the committed message or the hash that
is signed. -/
theorem pointToMsg_decodes_iff (bits : lib.BitSpec) (point : Fr × Fr) :
    ((∀ msg, PointToMsg lib point msg → msg = messageOf point) ↔ NotAliased point) ∧
      (NotAliased point → ∀ {n : ℕ} (parameters : DAEncrypt.Parameters)
        (w : DAEncrypt.Signals n), DAEncrypt.Satisfies lib parameters w → ∀ i,
          (w.msgAsPoint i = point → (w.commitors i).msg = messageOf point) ∧
          (w.prfOutAsPoint i = point →
            (w.sigVerifiers i).M = Hash lib ![w.prfIn i, messageOf point])) := by
  refine ⟨pointToMsg_unique_iff bits, fun notAliased n parameters w satisfied i => ?_⟩
  have unique := (pointToMsg_unique_iff bits).mpr notAliased
  have message := satisfied.message i
  constructor
  · rintro rfl
    rw [message.commitors_msg]
    exact unique _ message.msg
  · rintro rfl
    rw [message.sigVerifiers_M, message.hash, unique _ message.prfOut]

end Decoding

section Sample

namespace DAEncrypt

theorem aliased_zero : PointToMsg (Circomlib.reference samplePoseidon) (0, 1)
    ((fieldOrder / 1024 : ℕ) : Fr) := by
  have bits := Circomlib.reference_bitSpec samplePoseidon
  refine (pointToMsg_iff bits).mpr ⟨fieldOrder, .inr ⟨?_, ?_⟩, rfl⟩
  · rw [ZMod.val_zero, zero_add]
  · norm_num

/-- The coordinate `0` decodes to `p / 1024` too, also inside the circuit. -/
theorem zero_decodes_twice :
    ¬ (∀ msg, PointToMsg (Circomlib.reference samplePoseidon) (0, 1) msg →
        msg = messageOf (0, 1)) ∧
      Satisfies (Circomlib.reference samplePoseidon) sampleParameters
        (sampleAssignment 0 (fieldOrder / 1024) 0) ∧
      (sampleAssignment 0 (fieldOrder / 1024) 0).msgAsPoint 0 = (0, 1) ∧
      ((sampleAssignment 0 (fieldOrder / 1024) 0).commitors 0).msg ≠ messageOf (0, 1) := by
  have different : ((fieldOrder / 1024 : ℕ) : Fr) ≠ messageOf (0, 1) := by
    decide +kernel
  have satisfied := satisfies_sampleAssignment (smul_zero subOrder) (by norm_num) aliased_zero 0
  exact ⟨fun unique => different (unique _ aliased_zero), satisfied, rfl, different⟩

/-- The first coordinate of `-BASE8` decodes to one message, also inside the circuit. -/
theorem neg_BASE8_decodes_once :
    (∀ msg, PointToMsg (Circomlib.reference samplePoseidon) (-BASE8).coords msg →
        msg = messageOf (-BASE8).coords) ∧
      ((sampleAssignment (-BASE8) ((-BASE8).x.val / 1024) 0).commitors 0).msg =
        messageOf (-BASE8).coords := by
  have decodes := pointToMsg_decodes_iff (Circomlib.reference_bitSpec samplePoseidon)
    (-BASE8).coords
  have notAliased : NotAliased (-BASE8).coords := by
    unfold NotAliased
    decide +kernel
  have member : (-BASE8).InSubgroup :=
    BabyPoint.inSubgroup_iff.mpr (neg_mem (AddSubgroup.mem_zmultiples BASE8))
  have satisfied := satisfies_canonicalAssignment member 0
  exact ⟨decodes.1.mpr notAliased, (decodes.2 notAliased _ _ satisfied 0).1 rfl⟩

end DAEncrypt

end Sample

end IdHub
