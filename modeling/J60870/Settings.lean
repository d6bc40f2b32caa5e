import J60870.Ie.InformationObject

namespace J60870

/-- The settings of a connection, in the ranges its builders accept. Times are
in milliseconds. -/
structure ConnectionSettings where
  messageFragmentTimeout : Nat := 5000
  cotFieldLength : Nat := 2
  commonAddressFieldLength : Nat := 2
  ioaFieldLength : Nat := 3
  /-- t1 -/
  maxTimeNoAckReceived : Nat := 15000
  /-- t2 -/
  maxTimeNoAckSent : Nat := 10000
  /-- t3 -/
  maxIdleTime : Nat := 20000
  connectionTimeout : Nat := 30000
  /-- w -/
  maxUnconfirmedIPdusReceived : Nat := 8
  /-- k -/
  maxNumOfOutstandingIPdus : Nat := 12
  useSharedThreadPool : Bool := false
  reservedASduTypeDecoder : Option ReservedASduTypeDecoder := none
  fragment_range : 100 ≤ messageFragmentTimeout := by decide
  cot_range : cotFieldLength = 1 ∨ cotFieldLength = 2 := by decide
  commonAddress_range : commonAddressFieldLength = 1 ∨ commonAddressFieldLength = 2 := by decide
  ioa_range : 1 ≤ ioaFieldLength ∧ ioaFieldLength ≤ 3 := by decide
  t1_range : 1000 ≤ maxTimeNoAckReceived ∧ maxTimeNoAckReceived ≤ 255000 := by decide
  t2_range : 1000 ≤ maxTimeNoAckSent ∧ maxTimeNoAckSent ≤ 255000 := by decide
  t3_range : 1000 ≤ maxIdleTime ∧ maxIdleTime ≤ 172800000 := by decide
  w_range : 1 ≤ maxUnconfirmedIPdusReceived ∧ maxUnconfirmedIPdusReceived ≤ 32767 := by decide
  k_range : 1 ≤ maxNumOfOutstandingIPdus ∧ maxNumOfOutstandingIPdus ≤ 32767 := by decide

end J60870
