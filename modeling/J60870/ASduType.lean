import J60870.Java

namespace J60870

/-- Type identifications without a standardized layout: reserved for further
compatible definitions. -/
def IsReserved (id : Nat) : Prop :=
  22 ≤ id ∧ id ≤ 29 ∨ 41 ≤ id ∧ id ≤ 44 ∨ 52 ≤ id ∧ id ≤ 57 ∨ 65 ≤ id ∧ id ≤ 69 ∨
  71 ≤ id ∧ id ≤ 99 ∨ 108 ≤ id ∧ id ≤ 109 ∨ 114 ≤ id ∧ id ≤ 119

instance : DecidablePred IsReserved := fun id => by unfold IsReserved; infer_instance

def IsPrivate (id : Nat) : Prop := 128 ≤ id ∧ id ≤ 255

instance : DecidablePred IsPrivate := fun id => by unfold IsPrivate; infer_instance

/-- The type identification field of an ASDU. The reserved and the private
enumerators carry the identification they are named after. -/
inductive ASduType
  | M_SP_NA_1 | M_SP_TA_1 | M_DP_NA_1 | M_DP_TA_1 | M_ST_NA_1 | M_ST_TA_1 | M_BO_NA_1 | M_BO_TA_1
  | M_ME_NA_1 | M_ME_TA_1 | M_ME_NB_1 | M_ME_TB_1 | M_ME_NC_1 | M_ME_TC_1 | M_IT_NA_1 | M_IT_TA_1
  | M_EP_TA_1 | M_EP_TB_1 | M_EP_TC_1 | M_PS_NA_1 | M_ME_ND_1 | M_SP_TB_1 | M_DP_TB_1 | M_ST_TB_1
  | M_BO_TB_1 | M_ME_TD_1 | M_ME_TE_1 | M_ME_TF_1 | M_IT_TB_1 | M_EP_TD_1 | M_EP_TE_1 | M_EP_TF_1
  | C_SC_NA_1 | C_DC_NA_1 | C_RC_NA_1 | C_SE_NA_1 | C_SE_NB_1 | C_SE_NC_1 | C_BO_NA_1 | C_SC_TA_1
  | C_DC_TA_1 | C_RC_TA_1 | C_SE_TA_1 | C_SE_TB_1 | C_SE_TC_1 | C_BO_TA_1 | M_EI_NA_1 | C_IC_NA_1
  | C_CI_NA_1 | C_RD_NA_1 | C_CS_NA_1 | C_TS_NA_1 | C_RP_NA_1 | C_CD_NA_1 | C_TS_TA_1 | P_ME_NA_1
  | P_ME_NB_1 | P_ME_NC_1 | P_AC_NA_1 | F_FR_NA_1 | F_SR_NA_1 | F_SC_NA_1 | F_LS_NA_1 | F_AF_NA_1
  | F_SG_NA_1 | F_DR_TA_1 | F_SC_NB_1
  | RESERVED (id : {id : Nat // IsReserved id})
  | PRIVATE (id : {id : Nat // IsPrivate id})
  deriving DecidableEq, Repr

namespace ASduType

def getId : ASduType → Nat
  | .M_SP_NA_1 => 1 | .M_SP_TA_1 => 2 | .M_DP_NA_1 => 3 | .M_DP_TA_1 => 4 | .M_ST_NA_1 => 5
  | .M_ST_TA_1 => 6 | .M_BO_NA_1 => 7 | .M_BO_TA_1 => 8 | .M_ME_NA_1 => 9 | .M_ME_TA_1 => 10
  | .M_ME_NB_1 => 11 | .M_ME_TB_1 => 12 | .M_ME_NC_1 => 13 | .M_ME_TC_1 => 14 | .M_IT_NA_1 => 15
  | .M_IT_TA_1 => 16 | .M_EP_TA_1 => 17 | .M_EP_TB_1 => 18 | .M_EP_TC_1 => 19 | .M_PS_NA_1 => 20
  | .M_ME_ND_1 => 21 | .M_SP_TB_1 => 30 | .M_DP_TB_1 => 31 | .M_ST_TB_1 => 32 | .M_BO_TB_1 => 33
  | .M_ME_TD_1 => 34 | .M_ME_TE_1 => 35 | .M_ME_TF_1 => 36 | .M_IT_TB_1 => 37 | .M_EP_TD_1 => 38
  | .M_EP_TE_1 => 39 | .M_EP_TF_1 => 40 | .C_SC_NA_1 => 45 | .C_DC_NA_1 => 46 | .C_RC_NA_1 => 47
  | .C_SE_NA_1 => 48 | .C_SE_NB_1 => 49 | .C_SE_NC_1 => 50 | .C_BO_NA_1 => 51 | .C_SC_TA_1 => 58
  | .C_DC_TA_1 => 59 | .C_RC_TA_1 => 60 | .C_SE_TA_1 => 61 | .C_SE_TB_1 => 62 | .C_SE_TC_1 => 63
  | .C_BO_TA_1 => 64 | .M_EI_NA_1 => 70 | .C_IC_NA_1 => 100 | .C_CI_NA_1 => 101 | .C_RD_NA_1 => 102
  | .C_CS_NA_1 => 103 | .C_TS_NA_1 => 104 | .C_RP_NA_1 => 105 | .C_CD_NA_1 => 106
  | .C_TS_TA_1 => 107 | .P_ME_NA_1 => 110 | .P_ME_NB_1 => 111 | .P_ME_NC_1 => 112
  | .P_AC_NA_1 => 113 | .F_FR_NA_1 => 120 | .F_SR_NA_1 => 121 | .F_SC_NA_1 => 122
  | .F_LS_NA_1 => 123 | .F_AF_NA_1 => 124 | .F_SG_NA_1 => 125 | .F_DR_TA_1 => 126
  | .F_SC_NB_1 => 127
  | .RESERVED id => id.val
  | .PRIVATE id => id.val

/-- The enumerators that name a standardized layout. -/
def standardized : List ASduType :=
  [.M_SP_NA_1, .M_SP_TA_1, .M_DP_NA_1, .M_DP_TA_1, .M_ST_NA_1, .M_ST_TA_1, .M_BO_NA_1, .M_BO_TA_1,
   .M_ME_NA_1, .M_ME_TA_1, .M_ME_NB_1, .M_ME_TB_1, .M_ME_NC_1, .M_ME_TC_1, .M_IT_NA_1, .M_IT_TA_1,
   .M_EP_TA_1, .M_EP_TB_1, .M_EP_TC_1, .M_PS_NA_1, .M_ME_ND_1, .M_SP_TB_1, .M_DP_TB_1, .M_ST_TB_1,
   .M_BO_TB_1, .M_ME_TD_1, .M_ME_TE_1, .M_ME_TF_1, .M_IT_TB_1, .M_EP_TD_1, .M_EP_TE_1, .M_EP_TF_1,
   .C_SC_NA_1, .C_DC_NA_1, .C_RC_NA_1, .C_SE_NA_1, .C_SE_NB_1, .C_SE_NC_1, .C_BO_NA_1, .C_SC_TA_1,
   .C_DC_TA_1, .C_RC_TA_1, .C_SE_TA_1, .C_SE_TB_1, .C_SE_TC_1, .C_BO_TA_1, .M_EI_NA_1, .C_IC_NA_1,
   .C_CI_NA_1, .C_RD_NA_1, .C_CS_NA_1, .C_TS_NA_1, .C_RP_NA_1, .C_CD_NA_1, .C_TS_TA_1, .P_ME_NA_1,
   .P_ME_NB_1, .P_ME_NC_1, .P_AC_NA_1, .F_FR_NA_1, .F_SR_NA_1, .F_SC_NA_1, .F_LS_NA_1, .F_AF_NA_1,
   .F_SG_NA_1, .F_DR_TA_1, .F_SC_NB_1]

/-- The enumerator with the given identification, `none` where the source's map
has no entry. -/
def typeFor (id : Nat) : Option ASduType :=
  match standardized.find? (fun type => type.getId == id) with
  | some type => some type
  | none =>
    if reserved : IsReserved id then some (.RESERVED ⟨id, reserved⟩)
    else if range : IsPrivate id then some (.PRIVATE ⟨id, range⟩)
    else none

private theorem find?_standardized_of_other (id : Nat) (other : IsReserved id ∨ IsPrivate id) :
    standardized.find? (fun type => type.getId == id) = none := by
  have named : ∀ type ∈ standardized, ¬ IsReserved type.getId ∧ ¬ IsPrivate type.getId := by decide
  apply List.find?_eq_none.mpr
  intro type member same
  have identical : type.getId = id := beq_iff_eq.mp same
  rw [← identical] at other
  exact other.elim (named type member).1 (named type member).2

/-- The identification determines the enumerator. -/
theorem typeFor_getId (type : ASduType) : typeFor type.getId = some type := by
  cases type with
  | RESERVED id =>
    have absent := find?_standardized_of_other id.val (.inl id.property)
    change typeFor id.val = _
    rw [typeFor, absent]
    simp [id.property]
  | PRIVATE id =>
    have absent := find?_standardized_of_other id.val (.inr id.property)
    have apart : ¬ IsReserved id.val := by
      have range := id.property
      unfold IsPrivate at range
      unfold IsReserved
      omega
    change typeFor id.val = _
    rw [typeFor, absent]
    simp [apart, id.property]
  | _ => rfl

theorem getId_lt (type : ASduType) : type.getId < 256 := by
  cases type with
  | RESERVED id =>
    have range := id.property
    unfold IsReserved at range
    simp only [getId]
    omega
  | PRIVATE id =>
    have range := id.property
    unfold IsPrivate at range
    simp only [getId]
    omega
  | _ => decide

theorem getId_of_typeFor {id : Nat} {type : ASduType} (found : typeFor id = some type) :
    type.getId = id := by
  unfold typeFor at found
  split at found
  · rename_i named selected
    cases found
    have same := List.find?_some (p := fun type : ASduType => type.getId == id) selected
    exact beq_iff_eq.mp same
  · split at found
    · cases found
      rfl
    · split at found
      · cases found
        rfl
      · cases found

theorem getId_ge_iff (type : ASduType) : 128 ≤ type.getId ↔ ∃ id, type = .PRIVATE id := by
  cases type with
  | RESERVED id =>
    have range := id.property
    unfold IsReserved at range
    simp only [getId, reduceCtorEq, exists_false, iff_false]
    omega
  | PRIVATE id =>
    have range := id.property
    unfold IsPrivate at range
    simp [getId, range.1]
  | _ => simp [getId]

end ASduType

end J60870
