import Mathlib.Data.Nat.Bitwise

/-! Machine words as octets, least significant first: gathering the octets of a
word with shifts and ors gives the word back when it fits in them. -/

namespace Lib

variable {w : Nat}

/-- Octet number `k` of a word, counted from the least significant one. -/
def octet (v : BitVec w) (k : Nat) : BitVec 8 := v.extractLsb' (8 * k) 8

/-- The lowest `n` octets of a word. -/
def octets (v : BitVec w) (n : Nat) : List (BitVec 8) := (List.range n).map (octet v)

/-- Or octet after octet into `acc`, starting at octet position `k`. -/
def gather (acc : BitVec w) (k : Nat) : List (BitVec 8) → BitVec w
  | [] => acc
  | b :: bs => gather (acc ||| (b.setWidth w <<< (8 * k))) (k + 1) bs

/-- The lowest `m` bits of a word. -/
def low (v : BitVec w) (m : Nat) : BitVec w := (v.setWidth m).setWidth w

theorem low_zero (v : BitVec w) : low v 0 = 0#w := by
  apply BitVec.eq_of_getLsbD_eq
  intro i _
  simp [low]

theorem low_of_lt (v : BitVec w) (m : Nat) (small : v.toNat < 2 ^ m) : low v m = v := by
  apply BitVec.eq_of_toNat_eq
  simp [low, Nat.mod_eq_of_lt small, Nat.mod_eq_of_lt v.isLt]

theorem low_eq_self_iff (v : BitVec w) (m : Nat) : low v m = v ↔ v.toNat < 2 ^ m := by
  refine ⟨fun same => ?_, low_of_lt v m⟩
  have value : (low v m).toNat = v.toNat % 2 ^ m % 2 ^ w := by simp [low]
  rw [← same, value]
  exact Nat.lt_of_le_of_lt (Nat.mod_le _ _) (Nat.mod_lt _ (Nat.two_pow_pos m))

/-- One more octet ored in is eight more bits known. -/
theorem low_or_octet (v : BitVec w) (k : Nat) :
    low v (8 * k) ||| ((octet v k).setWidth w <<< (8 * k)) = low v (8 * (k + 1)) := by
  apply BitVec.eq_of_getLsbD_eq
  intro i bound
  simp only [low, octet, BitVec.getLsbD_or, BitVec.getLsbD_setWidth, BitVec.getLsbD_shiftLeft,
    BitVec.getLsbD_extractLsb', bound, decide_true, Bool.true_and]
  by_cases below : i < 8 * k
  · simp [below, show i < 8 * (k + 1) by omega]
  · by_cases inside : i < 8 * (k + 1)
    · have place : 8 * k + (i - 8 * k) = i := by omega
      simp [below, inside, place, show i - 8 * k < 8 by omega, show i - 8 * k < w by omega]
    · simp [below, inside, show ¬ i - 8 * k < 8 by omega]

theorem gather_low (v : BitVec w) (n k : Nat) :
    gather (low v (8 * k)) k ((List.range' k n).map (octet v)) = low v (8 * (k + n)) := by
  induction n generalizing k with
  | zero => rfl
  | succ n ih =>
    rw [List.range'_succ, List.map_cons, gather, low_or_octet, ih (k + 1)]
    congr 2
    omega

theorem gather_octets_low (v : BitVec w) (n : Nat) : gather 0#w 0 (octets v n) = low v (8 * n) := by
  have all := gather_low v n 0
  rw [Nat.mul_zero, low_zero, Nat.zero_add] at all
  rwa [octets, List.range_eq_range']

/-- The octets of a word that fits in `n` of them gather to the word. -/
theorem gather_octets (v : BitVec w) (n : Nat) (small : v.toNat < 2 ^ (8 * n)) :
    gather 0#w 0 (octets v n) = v := by
  rw [gather_octets_low, low_of_lt v _ small]

@[simp] theorem octets_length (v : BitVec w) (n : Nat) : (octets v n).length = n := by
  simp [octets]

/-- An octet ored in above the others leaves them as they are. -/
theorem octet_or_below (v : BitVec w) (b : BitVec 8) {j k : Nat} (below : j < k) :
    octet (v ||| (b.setWidth w <<< (8 * k))) j = octet v j := by
  apply BitVec.eq_of_getLsbD_eq
  intro i bound
  simp only [octet, BitVec.getLsbD_extractLsb', BitVec.getLsbD_or, BitVec.getLsbD_shiftLeft]
  simp [show 8 * j + i < 8 * k by omega]

/-- It is the next octet of the word. -/
theorem octet_or_self (v : BitVec w) (b : BitVec 8) {k : Nat} (small : v.toNat < 2 ^ (8 * k))
    (inside : 8 * (k + 1) ≤ w) : octet (v ||| (b.setWidth w <<< (8 * k))) k = b := by
  apply BitVec.eq_of_getLsbD_eq
  intro i bound
  have free : v.getLsbD (8 * k + i) = false :=
    Nat.testBit_lt_two_pow (small.trans_le (Nat.pow_le_pow_right (by decide) (by omega)))
  have place : 8 * k + i - 8 * k = i := by omega
  simp only [octet, BitVec.getLsbD_extractLsb', BitVec.getLsbD_or, BitVec.getLsbD_shiftLeft,
    BitVec.getLsbD_setWidth, free, place]
  simp [bound, show 8 * k + i < w by omega, show i < w by omega]

theorem or_octet_lt (v : BitVec w) (b : BitVec 8) {k : Nat} (small : v.toNat < 2 ^ (8 * k)) :
    (v ||| (b.setWidth w <<< (8 * k))).toNat < 2 ^ (8 * (k + 1)) := by
  have grown : 2 ^ (8 * (k + 1)) = 2 ^ 8 * 2 ^ (8 * k) := by
    rw [← Nat.pow_add]
    congr 1
    omega
  have above : (b.setWidth w <<< (8 * k)).toNat < 2 ^ (8 * (k + 1)) := by
    rw [BitVec.toNat_shiftLeft, Nat.shiftLeft_eq, BitVec.toNat_setWidth, grown]
    calc b.toNat % 2 ^ w * 2 ^ (8 * k) % 2 ^ w
        ≤ b.toNat % 2 ^ w * 2 ^ (8 * k) := Nat.mod_le _ _
      _ ≤ b.toNat * 2 ^ (8 * k) := Nat.mul_le_mul_right _ (Nat.mod_le _ _)
      _ < 2 ^ 8 * 2 ^ (8 * k) := Nat.mul_lt_mul_of_pos_right b.isLt (Nat.two_pow_pos _)
  rw [BitVec.toNat_or]
  refine Nat.or_lt_two_pow (small.trans_le ?_) above
  exact Nat.pow_le_pow_right (by decide) (by omega)

theorem gather_lt (v : BitVec w) (k : Nat) (bs : List (BitVec 8)) (small : v.toNat < 2 ^ (8 * k)) :
    (gather v k bs).toNat < 2 ^ (8 * (k + bs.length)) := by
  induction bs generalizing v k with
  | nil => exact small
  | cons b bs ih =>
    have rest := ih (v ||| (b.setWidth w <<< (8 * k))) (k + 1) (or_octet_lt v b small)
    rwa [List.length_cons, Nat.add_comm bs.length, ← Nat.add_assoc]

/-- Octets gathered above the `k` octets of a word follow these. -/
theorem octets_gather_above (v : BitVec w) (k : Nat) (bs : List (BitVec 8))
    (small : v.toNat < 2 ^ (8 * k)) (inside : 8 * (k + bs.length) ≤ w) :
    octets (gather v k bs) (k + bs.length) = octets v k ++ bs := by
  induction bs generalizing v k with
  | nil => simp [gather]
  | cons b bs ih =>
    rw [List.length_cons] at inside ⊢
    have next : octets (v ||| (b.setWidth w <<< (8 * k))) (k + 1) = octets v k ++ [b] := by
      rw [octets, List.range_succ, List.map_append, List.map_singleton,
        octet_or_self v b small (by omega)]
      refine congrArg (· ++ [b]) (List.map_congr_left fun j member => ?_)
      exact octet_or_below v b (List.mem_range.mp member)
    have rest := ih (v ||| (b.setWidth w <<< (8 * k))) (k + 1) (or_octet_lt v b small) (by omega)
    rw [next, List.append_assoc, List.singleton_append] at rest
    rwa [Nat.add_comm bs.length, ← Nat.add_assoc]

/-- What was gathered from octets has these octets. -/
theorem octets_gather (bs : List (BitVec 8)) (inside : 8 * bs.length ≤ w) :
    octets (gather (0#w) 0 bs) bs.length = bs := by
  have whole := octets_gather_above (0#w) 0 bs (by simp) (by omega)
  rwa [Nat.zero_add] at whole

/-- Shifting a word right and cutting it to eight bits selects an octet. -/
theorem setWidth_sshiftRight (v : BitVec w) (k : Nat) (inside : 8 * (k + 1) ≤ w) :
    (v.sshiftRight (8 * k)).setWidth 8 = octet v k := by
  apply BitVec.eq_of_getLsbD_eq
  intro i bound
  simp only [octet, BitVec.getLsbD_setWidth, BitVec.getLsbD_extractLsb', BitVec.getLsbD_sshiftRight]
  simp [show ¬ w ≤ i by omega, show 8 * k + i < w by omega]

theorem setWidth_eq_octet (v : BitVec w) : v.setWidth 8 = octet v 0 := by
  apply BitVec.eq_of_getLsbD_eq
  intro i bound
  simp [octet, bound]

/-- A word whose value fits in `m` bits is the widening of its `m` low bits. -/
theorem exists_setWidth (v : BitVec w) (m : Nat) (small : v.toNat < 2 ^ m) :
    ∃ q : BitVec m, v = q.setWidth w :=
  ⟨v.setWidth m, (low_of_lt v m small).symm⟩

/-- A word whose signed value fits in `m` bits is the sign extension of its
`m` low bits. -/
theorem exists_signExtend (v : BitVec w) (m : Nat) (narrow : m ≤ w) (least : -2 ^ m ≤ 2 * v.toInt)
    (most : 2 * v.toInt < 2 ^ m) : ∃ q : BitVec m, v = q.signExtend w := by
  refine ⟨v.setWidth m, BitVec.eq_of_toInt_eq ?_⟩
  have modulus : (v.toNat : Int).bmod (2 ^ m) = v.toInt := by
    rw [BitVec.toInt_eq_toNat_bmod] at least most ⊢
    have divides : (2 ^ m : Nat) ∣ 2 ^ w := Nat.pow_dvd_pow 2 narrow
    rw [← Int.bmod_bmod_of_dvd divides]
    apply Int.bmod_eq_of_le_mul_two
    · rwa [Int.mul_comm, Int.natCast_pow]
    · rwa [Int.mul_comm, Int.natCast_pow]
  rw [BitVec.toInt_signExtend_of_le narrow, BitVec.toInt_setWidth, modulus]

end Lib
