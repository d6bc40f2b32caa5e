import J60870.Settings
import J60870.Lib.Method

namespace J60870

open Lib Method

/-- The fields of `ConnectionSettings`, of which the class itself checks none. -/
structure BuilderSettings where
  messageFragmentTimeout : JInt := 5000
  cotFieldLength : JInt := 2
  commonAddressFieldLength : JInt := 2
  ioaFieldLength : JInt := 3
  connectionTimeout : JInt := 30000
  /-- t1 -/
  maxTimeNoAckReceived : JInt := 15000
  /-- t2 -/
  maxTimeNoAckSent : JInt := 10000
  /-- t3 -/
  maxIdleTime : JInt := 20000
  maxUnconfirmedIPdusReceived : JInt := 8
  maxNumOfOutstandingIPdus : JInt := 12
  useSharedThreadPool : Bool := false
  reservedASduTypeDecoder : Option ReservedASduTypeDecoder := none

/-- `CommonBuilder`, with the fields of the class that extends it. -/
structure CommonBuilder (T : Type) where
  settings : BuilderSettings := {}
  self : T

/-- The setters, which return the builder they are called on. -/
abbrev Setter (T α : Type) := Method JavaException (CommonBuilder T) α

namespace CommonBuilder

variable {T : Type}

def refuseIf (invalid : Bool) (message : String) : Setter T Unit :=
  if invalid then throw (.illegalArgumentException message) else return

def set (f : BuilderSettings → BuilderSettings) : Setter T Unit :=
  modify fun b => { b with settings := f b.settings }

def setCotFieldLength (length : JInt) : Setter T Unit := do
  refuseIf (length ≠ 1 && length ≠ 2) "invalid length"
  set fun settings => { settings with cotFieldLength := length }

def setCommonAddressFieldLength (length : JInt) : Setter T Unit := do
  refuseIf (length ≠ 1 && length ≠ 2) "invalid length"
  set fun settings => { settings with commonAddressFieldLength := length }

def setIoaFieldLength (length : JInt) : Setter T Unit := do
  refuseIf (length.toInt < 1 || 3 < length.toInt) s!"invalid length: {length.toInt}"
  set fun settings => { settings with ioaFieldLength := length }

def checkTimeRange (time : JInt) (name : String) : Setter T Unit :=
  refuseIf (time.toInt < 1000 || 255000 < time.toInt)
    s!"invalid timeout: {time.toInt}, {name} must be between 1000ms and 255000ms"

/-- Neither t2 nor t3 is looked at. -/
def setMaxTimeNoAckReceived (time_t1 : JInt) : Setter T Unit := do
  checkTimeRange time_t1 "t1 (maxTimeNoAckReceived)"
  set fun settings => { settings with maxTimeNoAckReceived := time_t1 }

def setMaxTimeNoAckSent (time_t2 : JInt) : Setter T Unit := do
  let t1 := (← get).settings.maxTimeNoAckReceived
  checkTimeRange time_t2 "t2 (maxTimeNoAckSent)"
  refuseIf (t1.toInt < time_t2.toInt)
    s!"invalid timeout: t2 (maxTimeNoAckSent) has to be smaller then t1 (maxTimeNoAckReceived), t2 < t1. Current values are: t1={t1.toInt} ms, t2={time_t2.toInt}ms"
  set fun settings => { settings with maxTimeNoAckSent := time_t2 }

def setMaxIdleTime (time_t3 : JInt) : Setter T Unit := do
  let t1 := (← get).settings.maxTimeNoAckReceived
  refuseIf (time_t3.toInt < 1000 || 172800000 < time_t3.toInt)
    s!"invalid timeout: {time_t3.toInt}, t3 (maxIdleTime) must be between 1000ms and 172800000ms"
  refuseIf (time_t3.toInt < t1.toInt)
    s!"invalid timeout: t3 (maxIdleTime) has to be greater then t1 (maxTimeNoAckReceived), t3 > t1. Current values are: t1={t1.toInt} ms, t3={time_t3.toInt}ms"
  set fun settings => { settings with maxIdleTime := time_t3 }

def setMaxNumOfOutstandingIPdus (maxNum : JInt) : Setter T Unit := do
  refuseIf (maxNum.toInt < 1 || 32767 < maxNum.toInt)
    s!"invalid maxNum: {maxNum.toInt}, must be a value between 1 and 32767"
  set fun settings => { settings with maxNumOfOutstandingIPdus := maxNum }

def setMaxUnconfirmedIPdusReceived (maxNum : JInt) : Setter T Unit := do
  refuseIf (maxNum.toInt < 1 || 32767 < maxNum.toInt)
    s!"invalid maxNum: {maxNum.toInt}, must be a value between 1 and 32767"
  set fun settings => { settings with maxUnconfirmedIPdusReceived := maxNum }

def setMessageFragmentTimeout (time : JInt) : Setter T Unit := do
  refuseIf (time.toInt < 100) s!"invalid timeout: {time.toInt}, time must be bigger then 100ms"
  set fun settings => { settings with messageFragmentTimeout := time }

def useSharedThreadPool : Setter T Unit :=
  set fun settings => { settings with useSharedThreadPool := true }

/-- Not a method of `CommonBuilder`, but the same in both classes that extend it. -/
def setReservedASduTypeDecoder (reservedASduTypeDecoder : Option ReservedASduTypeDecoder) : Setter T Unit :=
  set fun settings => { settings with reservedASduTypeDecoder := reservedASduTypeDecoder }

/-- A call of a setter that both builders have. -/
inductive Call
  | setCotFieldLength (length : JInt)
  | setCommonAddressFieldLength (length : JInt)
  | setIoaFieldLength (length : JInt)
  | setMaxTimeNoAckReceived (time_t1 : JInt)
  | setMaxTimeNoAckSent (time_t2 : JInt)
  | setMaxIdleTime (time_t3 : JInt)
  | setMaxNumOfOutstandingIPdus (maxNum : JInt)
  | setMaxUnconfirmedIPdusReceived (maxNum : JInt)
  | setMessageFragmentTimeout (time : JInt)
  | useSharedThreadPool
  | setReservedASduTypeDecoder (reservedASduTypeDecoder : Option ReservedASduTypeDecoder)

def Call.run : Call → Setter T Unit
  | .setCotFieldLength length => CommonBuilder.setCotFieldLength length
  | .setCommonAddressFieldLength length => CommonBuilder.setCommonAddressFieldLength length
  | .setIoaFieldLength length => CommonBuilder.setIoaFieldLength length
  | .setMaxTimeNoAckReceived time_t1 => CommonBuilder.setMaxTimeNoAckReceived time_t1
  | .setMaxTimeNoAckSent time_t2 => CommonBuilder.setMaxTimeNoAckSent time_t2
  | .setMaxIdleTime time_t3 => CommonBuilder.setMaxIdleTime time_t3
  | .setMaxNumOfOutstandingIPdus maxNum => CommonBuilder.setMaxNumOfOutstandingIPdus maxNum
  | .setMaxUnconfirmedIPdusReceived maxNum => CommonBuilder.setMaxUnconfirmedIPdusReceived maxNum
  | .setMessageFragmentTimeout time => CommonBuilder.setMessageFragmentTimeout time
  | .useSharedThreadPool => CommonBuilder.useSharedThreadPool
  | .setReservedASduTypeDecoder decoder => CommonBuilder.setReservedASduTypeDecoder decoder

end CommonBuilder

/-- The fields of `Server.Builder`, as far as its setters check them or take an `int`. -/
structure ServerBuilder where
  port : JInt := 2404
  backlog : JInt := 0
  maxConnections : JInt := 100

namespace ServerBuilder

def setPort (port : JInt) : Setter ServerBuilder Unit :=
  modify fun b => { b with self.port := port }

def setBacklog (backlog : JInt) : Setter ServerBuilder Unit :=
  modify fun b => { b with self.backlog := backlog }

def setMaxConnections (maxConnections : JInt) : Setter ServerBuilder Unit := do
  CommonBuilder.refuseIf (maxConnections.toInt ≤ 0) "maxConnections is out of bound"
  modify fun b => { b with self.maxConnections := maxConnections }

inductive Call
  | common (call : CommonBuilder.Call)
  | setPort (port : JInt)
  | setBacklog (backlog : JInt)
  | setMaxConnections (maxConnections : JInt)

def Call.run : Call → Setter ServerBuilder Unit
  | .common call => call.run
  | .setPort port => ServerBuilder.setPort port
  | .setBacklog backlog => ServerBuilder.setBacklog backlog
  | .setMaxConnections maxConnections => ServerBuilder.setMaxConnections maxConnections

end ServerBuilder

/-- The fields of `ClientConnectionBuilder` that its setters give an `int`. -/
structure ClientConnectionBuilder where
  port : JInt := 2404
  localPort : JInt := 0

namespace ClientConnectionBuilder

def setPort (port : JInt) : Setter ClientConnectionBuilder Unit :=
  modify fun b => { b with self.port := port }

def setLocalAddress (port : JInt) : Setter ClientConnectionBuilder Unit :=
  modify fun b => { b with self.localPort := port }

def setConnectionTimeout (time_t0 : JInt) : Setter ClientConnectionBuilder Unit := do
  CommonBuilder.refuseIf (time_t0.toInt < 1000 || 255000 < time_t0.toInt)
    s!"invalid timeout: {time_t0.toInt}, t0 (connectionTimeout) must be between 1000ms and 255000ms"
  CommonBuilder.set fun settings => { settings with connectionTimeout := time_t0 }

inductive Call
  | common (call : CommonBuilder.Call)
  | setPort (port : JInt)
  | setLocalAddress (port : JInt)
  | setConnectionTimeout (time_t0 : JInt)

def Call.run : Call → Setter ClientConnectionBuilder Unit
  | .common call => call.run
  | .setPort port => ClientConnectionBuilder.setPort port
  | .setLocalAddress port => ClientConnectionBuilder.setLocalAddress port
  | .setConnectionTimeout time_t0 => ClientConnectionBuilder.setConnectionTimeout time_t0

end ClientConnectionBuilder

namespace BuilderSettings

/-- The ranges that the setters document. -/
structure Documented (settings : BuilderSettings) : Prop where
  fragment : 100 ≤ settings.messageFragmentTimeout.toInt
  cot : settings.cotFieldLength = 1 ∨ settings.cotFieldLength = 2
  commonAddress : settings.commonAddressFieldLength = 1 ∨ settings.commonAddressFieldLength = 2
  ioa : 1 ≤ settings.ioaFieldLength.toInt ∧ settings.ioaFieldLength.toInt ≤ 3
  t0 : 1000 ≤ settings.connectionTimeout.toInt ∧ settings.connectionTimeout.toInt ≤ 255000
  t1 : 1000 ≤ settings.maxTimeNoAckReceived.toInt ∧ settings.maxTimeNoAckReceived.toInt ≤ 255000
  t2 : 1000 ≤ settings.maxTimeNoAckSent.toInt ∧ settings.maxTimeNoAckSent.toInt ≤ 255000
  t3 : 1000 ≤ settings.maxIdleTime.toInt ∧ settings.maxIdleTime.toInt ≤ 172800000
  w : 1 ≤ settings.maxUnconfirmedIPdusReceived.toInt ∧ settings.maxUnconfirmedIPdusReceived.toInt ≤ 32767
  k : 1 ≤ settings.maxNumOfOutstandingIPdus.toInt ∧ settings.maxNumOfOutstandingIPdus.toInt ≤ 32767

/-- t2 < t1 < t3 -/
structure Ordered (settings : BuilderSettings) : Prop where
  sent : settings.maxTimeNoAckSent.toInt < settings.maxTimeNoAckReceived.toInt
  idle : settings.maxTimeNoAckReceived.toInt < settings.maxIdleTime.toInt

/-- The copy that a server or a connection is built with. -/
def copy (settings : BuilderSettings) (documented : settings.Documented) : ConnectionSettings where
  messageFragmentTimeout := settings.messageFragmentTimeout.toInt.toNat
  cotFieldLength := settings.cotFieldLength.toNat
  commonAddressFieldLength := settings.commonAddressFieldLength.toNat
  ioaFieldLength := settings.ioaFieldLength.toInt.toNat
  maxTimeNoAckReceived := settings.maxTimeNoAckReceived.toInt.toNat
  maxTimeNoAckSent := settings.maxTimeNoAckSent.toInt.toNat
  maxIdleTime := settings.maxIdleTime.toInt.toNat
  connectionTimeout := settings.connectionTimeout.toInt.toNat
  maxUnconfirmedIPdusReceived := settings.maxUnconfirmedIPdusReceived.toInt.toNat
  maxNumOfOutstandingIPdus := settings.maxNumOfOutstandingIPdus.toInt.toNat
  useSharedThreadPool := settings.useSharedThreadPool
  reservedASduTypeDecoder := settings.reservedASduTypeDecoder
  fragment_range := by have := documented.fragment; omega
  cot_range := documented.cot.imp (congrArg BitVec.toNat) (congrArg BitVec.toNat)
  commonAddress_range := documented.commonAddress.imp (congrArg BitVec.toNat) (congrArg BitVec.toNat)
  ioa_range := by have := documented.ioa; omega
  t1_range := by have := documented.t1; omega
  t2_range := by have := documented.t2; omega
  t3_range := by have := documented.t3; omega
  w_range := by have := documented.w; omega
  k_range := by have := documented.k; omega

theorem documented_defaults : ({} : BuilderSettings).Documented := by
  constructor <;> decide

theorem ordered_defaults : ({} : BuilderSettings).Ordered := by
  constructor <;> decide

end BuilderSettings

namespace CommonBuilder

variable {T : Type} {s : CommonBuilder T} {Q : Unit → CommonBuilder T → Prop}
  {E : JavaException → CommonBuilder T → Prop}

@[simp] theorem post_refuseIf (invalid : Bool) (message : String) :
    Post (refuseIf invalid message) s Q E ↔
      (invalid = true → E (.illegalArgumentException message) s) ∧ (¬ invalid = true → Q () s) := by
  simp [refuseIf]

@[simp] theorem post_set (f : BuilderSettings → BuilderSettings) :
    Post (set f) s Q E ↔ Q () { s with settings := f s.settings } := Iff.rfl

/-- The call has thrown an `IllegalArgumentException` and changed nothing. -/
structure Refused (s : CommonBuilder T) (e : JavaException) (t : CommonBuilder T) : Prop where
  illegal : ∃ message, e = .illegalArgumentException message
  unchanged : t = s

theorem refused (message : String) : Refused s (.illegalArgumentException message) s :=
  ⟨⟨message, rfl⟩, rfl⟩

/-- The call keeps t2 < t1 < t3. -/
def Call.KeepsOrder (settings : BuilderSettings) : Call → Prop
  | .setMaxTimeNoAckReceived time_t1 =>
    1000 ≤ time_t1.toInt ∧ time_t1.toInt ≤ 255000 →
      settings.maxTimeNoAckSent.toInt < time_t1.toInt ∧ time_t1.toInt < settings.maxIdleTime.toInt
  | .setMaxTimeNoAckSent time_t2 => time_t2 ≠ settings.maxTimeNoAckReceived
  | .setMaxIdleTime time_t3 => time_t3 ≠ settings.maxTimeNoAckReceived
  | _ => True

/-- What a call does to documented settings, and to their order. -/
def Spec (keepsOrder : Prop) (call : Setter T Unit) (s : CommonBuilder T) : Prop :=
  Post call s
    (fun _ t => t.settings.Documented ∧ (s.settings.Ordered → (t.settings.Ordered ↔ keepsOrder)))
    fun e t => Refused s e t ∧ keepsOrder

private theorem spec_checked {invalid : Bool} {message : String} {rest : Setter T Unit}
    {t : CommonBuilder T} (sets : rest s = .ok () t) (ordered : s.settings.Ordered → t.settings.Ordered)
    (documented : ¬ invalid = true → t.settings.Documented) :
    Spec True (do refuseIf invalid message; rest) s := by
  rw [Spec, post_bind, post_refuseIf, Post, sets]
  exact ⟨fun _ => ⟨refused message, trivial⟩,
    fun valid => ⟨documented valid, fun before => iff_true_intro (ordered before)⟩⟩

private theorem spec_unchecked {rest : Setter T Unit} {t : CommonBuilder T} (sets : rest s = .ok () t)
    (ordered : s.settings.Ordered → t.settings.Ordered) (documented : t.settings.Documented) :
    Spec True rest s := by
  rw [Spec, Post, sets]
  exact ⟨documented, fun before => iff_true_intro (ordered before)⟩

theorem spec_setMaxTimeNoAckReceived (time_t1 : JInt) (documented : s.settings.Documented) :
    Spec (Call.KeepsOrder s.settings (.setMaxTimeNoAckReceived time_t1))
      (setMaxTimeNoAckReceived time_t1) s := by
  rw [Spec, setMaxTimeNoAckReceived, checkTimeRange, post_bind, post_refuseIf]
  simp only [Bool.or_eq_true, decide_eq_true_eq]
  refine ⟨fun outside => ⟨refused _, fun inside => ?_⟩, fun inside => ?_⟩
  · omega
  · have range : 1000 ≤ time_t1.toInt ∧ time_t1.toInt ≤ 255000 := by omega
    refine ⟨{ documented with t1 := range }, fun _ => ⟨fun after _ => ⟨after.sent, after.idle⟩, ?_⟩⟩
    intro keeps
    exact ⟨(keeps range).1, (keeps range).2⟩

theorem spec_setMaxTimeNoAckSent (time_t2 : JInt) (documented : s.settings.Documented) :
    Spec (Call.KeepsOrder s.settings (.setMaxTimeNoAckSent time_t2)) (setMaxTimeNoAckSent time_t2) s := by
  have t1 := documented.t1
  rw [Spec, setMaxTimeNoAckSent, post_bind, post_get, checkTimeRange, post_bind, post_refuseIf]
  simp only [Bool.or_eq_true, decide_eq_true_eq]
  refine ⟨fun outside => ⟨refused _, ?_⟩, fun inside => ?_⟩
  · rintro rfl
    omega
  · rw [post_bind, post_refuseIf]
    simp only [decide_eq_true_eq]
    refine ⟨fun greater => ⟨refused _, ?_⟩, fun less => ?_⟩
    · rintro rfl
      omega
    · have range : 1000 ≤ time_t2.toInt ∧ time_t2.toInt ≤ 255000 := by omega
      refine ⟨{ documented with t2 := range }, fun ordered => ⟨?_, ?_⟩⟩
      · rintro ⟨sent, _⟩ rfl
        exact absurd sent (Int.lt_irrefl _)
      · intro different
        have apart : time_t2.toInt ≠ s.settings.maxTimeNoAckReceived.toInt := fun same =>
          different (BitVec.eq_of_toInt_eq same)
        refine ⟨?_, ordered.idle⟩
        change time_t2.toInt < s.settings.maxTimeNoAckReceived.toInt
        omega

theorem spec_setMaxIdleTime (time_t3 : JInt) (documented : s.settings.Documented) :
    Spec (Call.KeepsOrder s.settings (.setMaxIdleTime time_t3)) (setMaxIdleTime time_t3) s := by
  have t1 := documented.t1
  rw [Spec, setMaxIdleTime, post_bind, post_get, post_bind, post_refuseIf]
  simp only [Bool.or_eq_true, decide_eq_true_eq]
  refine ⟨fun outside => ⟨refused _, ?_⟩, fun inside => ?_⟩
  · rintro rfl
    omega
  · rw [post_bind, post_refuseIf]
    simp only [decide_eq_true_eq]
    refine ⟨fun less => ⟨refused _, ?_⟩, fun greater => ?_⟩
    · rintro rfl
      omega
    · have range : 1000 ≤ time_t3.toInt ∧ time_t3.toInt ≤ 172800000 := by omega
      refine ⟨{ documented with t3 := range }, fun ordered => ⟨?_, ?_⟩⟩
      · rintro ⟨_, idle⟩ rfl
        exact absurd idle (Int.lt_irrefl _)
      · intro different
        have apart : time_t3.toInt ≠ s.settings.maxTimeNoAckReceived.toInt := fun same =>
          different (BitVec.eq_of_toInt_eq same)
        refine ⟨ordered.sent, ?_⟩
        change s.settings.maxTimeNoAckReceived.toInt < time_t3.toInt
        omega

/-- Whatever the call, it sets within the documented ranges or throws; and it leaves the
timeouts in order exactly where it keeps the order. -/
theorem Call.spec (call : Call) (documented : s.settings.Documented) :
    Spec (call.KeepsOrder s.settings) call.run s := by
  cases call with
  | setMaxTimeNoAckReceived time_t1 => exact spec_setMaxTimeNoAckReceived time_t1 documented
  | setMaxTimeNoAckSent time_t2 => exact spec_setMaxTimeNoAckSent time_t2 documented
  | setMaxIdleTime time_t3 => exact spec_setMaxIdleTime time_t3 documented
  | useSharedThreadPool => exact spec_unchecked rfl (fun same => ⟨same.sent, same.idle⟩) { documented with }
  | setReservedASduTypeDecoder =>
    exact spec_unchecked rfl (fun same => ⟨same.sent, same.idle⟩) { documented with }
  | setCotFieldLength length =>
    refine spec_checked rfl (fun same => ⟨same.sent, same.idle⟩) fun valid => { documented with cot := ?_ }
    simp only [Bool.and_eq_true, decide_eq_true_eq, not_and, not_not] at valid
    exact (Decidable.em (length = 1)).imp_right valid
  | setCommonAddressFieldLength length =>
    refine spec_checked rfl (fun same => ⟨same.sent, same.idle⟩) fun valid =>
      { documented with commonAddress := ?_ }
    simp only [Bool.and_eq_true, decide_eq_true_eq, not_and, not_not] at valid
    exact (Decidable.em (length = 1)).imp_right valid
  | setIoaFieldLength length =>
    refine spec_checked rfl (fun same => ⟨same.sent, same.idle⟩) fun valid => { documented with ioa := ?_ }
    simp only [Bool.or_eq_true, decide_eq_true_eq] at valid
    change 1 ≤ length.toInt ∧ length.toInt ≤ 3
    omega
  | setMaxNumOfOutstandingIPdus maxNum =>
    refine spec_checked rfl (fun same => ⟨same.sent, same.idle⟩) fun valid => { documented with k := ?_ }
    simp only [Bool.or_eq_true, decide_eq_true_eq] at valid
    change 1 ≤ maxNum.toInt ∧ maxNum.toInt ≤ 32767
    omega
  | setMaxUnconfirmedIPdusReceived maxNum =>
    refine spec_checked rfl (fun same => ⟨same.sent, same.idle⟩) fun valid => { documented with w := ?_ }
    simp only [Bool.or_eq_true, decide_eq_true_eq] at valid
    change 1 ≤ maxNum.toInt ∧ maxNum.toInt ≤ 32767
    omega
  | setMessageFragmentTimeout time =>
    refine spec_checked rfl (fun same => ⟨same.sent, same.idle⟩) fun valid =>
      { documented with fragment := ?_ }
    simp only [decide_eq_true_eq] at valid
    change 100 ≤ time.toInt
    omega

section Calls

variable {C : Type} (run : C → Setter T Unit)

/-- The builder behind the calls, whether they returned or threw. -/
def after (s : CommonBuilder T) (calls : List C) : CommonBuilder T :=
  calls.foldl (fun s call => (run call).outcome s) s

def EachCall (P : CommonBuilder T → C → Prop) (s : CommonBuilder T) (calls : List C) : Prop :=
  ∀ before call rest, calls = before ++ call :: rest → P (after run s before) call

/-- Behind the call the settings are documented and ordered, and if it has thrown, it was an
`IllegalArgumentException` and nothing is changed. -/
def ConsistentCall (s : CommonBuilder T) (call : C) : Prop :=
  Post (run call) s (fun _ t => t.settings.Documented ∧ t.settings.Ordered)
    fun e t => (t.settings.Documented ∧ t.settings.Ordered) ∧ Refused s e t

variable {run} {P : CommonBuilder T → C → Prop} {call : C} {calls : List C}

theorem eachCall_cons : EachCall run P s (call :: calls) ↔
    P s call ∧ EachCall run P ((run call).outcome s) calls := by
  constructor
  · intro each
    refine ⟨each [] call calls rfl, fun before other rest split => ?_⟩
    exact each (call :: before) other rest (by rw [split, List.cons_append])
  · rintro ⟨now, later⟩ before other rest split
    cases before with
    | nil =>
      obtain ⟨rfl, rfl⟩ := List.cons.inj split
      exact now
    | cons first before =>
      obtain ⟨rfl, rfl⟩ := List.cons.inj split
      exact later before other rest rfl

theorem documented_after {keepsOrder : BuilderSettings → C → Prop}
    (specs : ∀ call (s : CommonBuilder T), s.settings.Documented →
      Spec (keepsOrder s.settings call) (run call) s)
    (documented : s.settings.Documented) : (after run s calls).settings.Documented := by
  induction calls generalizing s with
  | nil => exact documented
  | cons call calls ih =>
    refine ih (Post.outcome (P := fun t : CommonBuilder T => t.settings.Documented) ?_)
    refine (specs call s documented).mono (fun _ _ set => set.1) ?_
    rintro e t ⟨⟨_, rfl⟩, _⟩
    exact documented

/-- The calls are consistent up to the first one that does not keep the order. -/
theorem consistent_iff {keepsOrder : BuilderSettings → C → Prop}
    (specs : ∀ call (s : CommonBuilder T), s.settings.Documented →
      Spec (keepsOrder s.settings call) (run call) s)
    (documented : s.settings.Documented) (ordered : s.settings.Ordered) :
    EachCall run (ConsistentCall run) s calls ↔
      EachCall run (fun s call => keepsOrder s.settings call) s calls := by
  induction calls generalizing s with
  | nil => exact iff_of_true (fun _ _ _ none => by simp at none) fun _ _ _ none => by simp at none
  | cons call calls ih =>
    have spec := specs call s documented
    have kept : ConsistentCall run s call ↔ keepsOrder s.settings call := by
      constructor
      · intro consistent
        exact Post.outcome (P := fun _ => keepsOrder s.settings call) <|
          (spec.and consistent).mono (fun _ _ both => (both.1.2 ordered).mp both.2.2) fun _ _ both => both.1.2
      · intro keeps
        refine spec.mono (fun _ t set => ⟨set.1, (set.2 ordered).mpr keeps⟩) ?_
        rintro e t ⟨⟨illegal, rfl⟩, _⟩
        exact ⟨⟨documented, ordered⟩, illegal, rfl⟩
    rw [eachCall_cons, eachCall_cons, kept]
    refine and_congr_right fun keeps => ?_
    have behind : ((run call).outcome s).settings.Documented ∧ ((run call).outcome s).settings.Ordered :=
      Post.outcome (P := fun t => t.settings.Documented ∧ t.settings.Ordered) <|
        (kept.mpr keeps).mono (fun _ _ set => set) fun _ _ set => set.1
    exact ih behind.1 behind.2

end Calls

end CommonBuilder

def ServerBuilder.Call.KeepsOrder (settings : BuilderSettings) : ServerBuilder.Call → Prop
  | .common call => call.KeepsOrder settings
  | _ => True

def ClientConnectionBuilder.Call.KeepsOrder (settings : BuilderSettings) :
    ClientConnectionBuilder.Call → Prop
  | .common call => call.KeepsOrder settings
  | _ => True

section Builders

open CommonBuilder

private theorem server_spec (call : ServerBuilder.Call) (s : CommonBuilder ServerBuilder)
    (documented : s.settings.Documented) : Spec (call.KeepsOrder s.settings) call.run s := by
  cases call with
  | common call => exact call.spec documented
  | setPort => exact spec_unchecked rfl id documented
  | setBacklog => exact spec_unchecked rfl id documented
  | setMaxConnections => exact spec_checked rfl id fun _ => documented

private theorem client_spec (call : ClientConnectionBuilder.Call)
    (s : CommonBuilder ClientConnectionBuilder) (documented : s.settings.Documented) :
    Spec (call.KeepsOrder s.settings) call.run s := by
  cases call with
  | common call => exact call.spec documented
  | setPort => exact spec_unchecked rfl id documented
  | setLocalAddress => exact spec_unchecked rfl id documented
  | setConnectionTimeout time_t0 =>
    refine spec_checked rfl (fun same => ⟨same.sent, same.idle⟩) fun valid => { documented with t0 := ?_ }
    simp only [Bool.or_eq_true, decide_eq_true_eq] at valid
    change 1000 ≤ time_t0.toInt ∧ time_t0.toInt ≤ 255000
    omega

def ServerBuilder.settings (calls : List ServerBuilder.Call) : ConnectionSettings :=
  (after ServerBuilder.Call.run ⟨{}, {}⟩ calls).settings.copy
    (documented_after server_spec BuilderSettings.documented_defaults)

def ClientConnectionBuilder.settings (calls : List ClientConnectionBuilder.Call) : ConnectionSettings :=
  (after ClientConnectionBuilder.Call.run ⟨{}, {}⟩ calls).settings.copy
    (documented_after client_spec BuilderSettings.documented_defaults)

/-- From a fresh builder on, every call leaves documented and ordered settings, or throws and
changes nothing, exactly where every call keeps t2 < t1 < t3. -/
theorem builders_consistent_iff (calls : List ServerBuilder.Call)
    (clientCalls : List ClientConnectionBuilder.Call) :
    (EachCall ServerBuilder.Call.run (ConsistentCall ServerBuilder.Call.run) ⟨{}, {}⟩ calls ↔
      EachCall ServerBuilder.Call.run (fun s call => call.KeepsOrder s.settings) ⟨{}, {}⟩ calls) ∧
    (EachCall ClientConnectionBuilder.Call.run (ConsistentCall ClientConnectionBuilder.Call.run)
      ⟨{}, {}⟩ clientCalls ↔
      EachCall ClientConnectionBuilder.Call.run (fun s call => call.KeepsOrder s.settings)
        ⟨{}, {}⟩ clientCalls) :=
  ⟨consistent_iff server_spec BuilderSettings.documented_defaults BuilderSettings.ordered_defaults,
    consistent_iff client_spec BuilderSettings.documented_defaults BuilderSettings.ordered_defaults⟩

/-- t1 is set to the idle time. -/
theorem not_builders_consistent :
    ¬ ∀ calls : List ServerBuilder.Call,
      EachCall ServerBuilder.Call.run (ConsistentCall ServerBuilder.Call.run) ⟨{}, {}⟩ calls := by
  intro consistent
  have behind := consistent [.common (.setMaxTimeNoAckReceived 20000)] [] _ [] rfl
  exact absurd behind.2.idle (by decide)

end Builders

end J60870
