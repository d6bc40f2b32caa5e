import J60870.Reencoding
import J60870.Transmission

namespace J60870

open Lib

/-- An element of the class, as its decoder returns it. -/
structure ElementClass.Holds (c : ElementClass) (e : InformationElement) : Prop where
  getClass : e.getClass = c
  inWidth : e.InWidth
  /-- a file segment is held whole -/
  received : e.received = e

section Elements

/-- A reader that returns elements of the class. -/
private abbrev Holding (c : ElementClass) (p : InputStream InformationElement) : Prop :=
  Reader.Ensures p (fun _ => c.Holds) fun _ => True

private theorem holding_octet {c : ElementClass} {f : JInt → InformationElement}
    (holds : ∀ b : Octet, c.Holds (f (toInt b))) : Holding c (do return f (← readUnsignedByte)) :=
  ensures_bind_readUnsignedByte trivial fun b => Reader.Ensures.pure (holds b)

private theorem holding_raw {c : ElementClass} {f : JInt → InformationElement}
    (known : ∀ v, (f v).getClass = c) (inWidth : ∀ v : JInt, v.toNat < 2 ^ 8 → (f v).InWidth)
    (same : ∀ v, (f v).received = f v) : Holding c (do return f (← readUnsignedByte)) := by
  refine holding_octet fun b => ⟨known _, inWidth _ ?_, same _⟩
  rw [toInt, BitVec.toNat_setWidth]
  omega

private theorem holding_octets {c : ElementClass} {f : JInt → InformationElement} {n : Nat}
    (inside : n ≤ 4) (holds : ∀ v : JInt, v.toNat < 2 ^ (8 * n) → c.Holds (f v)) :
    Holding c (do return f (← readOctets n)) :=
  (ensures_readOctets trivial n inside).map fun _ v read => holds v read.2

private theorem holding_any {α : Type} {c : ElementClass} {p : InputStream α}
    {f : α → InformationElement} (reads : Reader.Ensures p (fun _ _ => True) fun _ => True)
    (holds : ∀ v, c.Holds (f v)) : Holding c (f <$> p) :=
  reads.map fun _ v _ => holds v

private theorem low_bits : ∀ b : Octet, (toInt b &&& 0x0f).toNat < 2 ^ 4 ∧
    ((toInt b).sshiftRight 4 &&& 0x0f).toNat < 2 ^ 4 ∧ (toInt b &&& 0x1f).toNat < 2 ^ 5 ∧
    (toInt b &&& 0x3f).toNat < 2 ^ 6 ∧ ((toInt b).sshiftRight 6 &&& 0x03).toNat < 2 ^ 2 ∧
    (toInt b &&& 0x7f).toNat < 2 ^ 7 := by
  decide +kernel

private theorem transient_inWidth : ∀ b : Octet,
    let value := if hasMask (toInt b) 0x40 then toInt b ||| 0xffffff80 else toInt b &&& 0x3f
    value.toInt ≤ 63 ∧ -64 ≤ value.toInt := by
  decide +kernel

private theorem normalized_eq (b1 b2 : Octet) :
    toInt b1 ||| (b2.signExtend 32 <<< 8) = (b2 ++ b1).signExtend 32 := by
  apply BitVec.eq_of_getLsbD_eq
  intro i bound
  simp only [toInt, BitVec.getLsbD_or, BitVec.getLsbD_setWidth, BitVec.getLsbD_shiftLeft,
    BitVec.getLsbD_signExtend, BitVec.getLsbD_append, bound]
  have sign : (b2 ++ b1).msb = b2.msb := by
    rw [BitVec.msb_append]
    rfl
  by_cases below : i < 8
  · simp [below, show i < 16 by omega]
  · have above : b1.getLsbD i = false := BitVec.getLsbD_of_ge b1 i (Nat.le_of_not_lt below)
    by_cases inside : i < 16
    · simp [below, inside, above, show i - 8 < 8 by omega, show i - 8 < 32 by omega]
    · simp [below, inside, above, sign, show ¬ i - 8 < 8 by omega, show i - 8 < 32 by omega]

private theorem normalized_inWidth (b1 b2 : Octet) :
    -32768 ≤ (toInt b1 ||| (b2.signExtend 32 <<< 8)).toInt ∧
      (toInt b1 ||| (b2.signExtend 32 <<< 8)).toInt ≤ 32767 := by
  have least := (b2 ++ b1).le_toInt
  have most := (b2 ++ b1).toInt_lt
  rw [normalized_eq, BitVec.toInt_signExtend_of_le (by decide)]
  omega

private theorem holding_normalized {c : ElementClass} {f : JInt → InformationElement}
    (holds : ∀ v : JInt, -32768 ≤ v.toInt ∧ v.toInt ≤ 32767 → c.Holds (f v)) :
    Holding c (f <$> readNormalized) := by
  refine Reader.Ensures.map (R := fun _ v => -32768 ≤ v.toInt ∧ v.toInt ≤ 32767) ?_
    fun _ v inside => holds v inside
  exact Reader.Ensures.cons trivial fun b1 => Reader.Ensures.cons trivial fun b2 =>
    Reader.Ensures.pure (normalized_inWidth b1 b2)

private theorem ensures_readInt : Reader.Ensures readInt (fun _ _ => True) fun _ => True := by
  refine ensures_bind_readUnsignedByte trivial fun b1 => ?_
  refine ensures_bind_readUnsignedByte trivial fun b2 => ?_
  refine ensures_bind_readUnsignedByte trivial fun b3 => ?_
  exact ensures_bind_readUnsignedByte trivial fun b4 => Reader.Ensures.pure trivial

private theorem ensures_readTime (m : Nat) :
    Reader.Ensures (readTime m) (fun _ _ => True) fun _ => True :=
  Reader.Ensures.vector (fun _ => trivial) trivial

private theorem holding_fileSegment :
    Holding .ieFileSegment ElementClass.ieFileSegment.decode := by
  refine ensures_bind_readUnsignedByte trivial fun b => ?_
  have small : (toInt b).toNat < 2 ^ 8 := by
    rw [toInt, BitVec.toNat_setWidth]
    omega
  refine (Reader.Ensures.word (R := fun _ segment => segment.length = (toInt b).toNat)
    (fun _ size => size) trivial).bindPure ?_
  rintro _ segment size
  obtain ⟨inside, whole⟩ := whole_segment small size
  exact ⟨rfl, ⟨inside, small⟩, congrArg (fun segment => InformationElement.ieFileSegment segment 0 _) whole⟩

private theorem holding_fixedTestBitPattern :
    Holding .ieFixedTestBitPattern ElementClass.ieFixedTestBitPattern.decode := by
  refine ensures_bind_readUnsignedByte trivial fun b1 => ?_
  by_cases first : toInt b1 = 0x55
  · simp only [first, ne_eq, not_true, if_false]
    refine ensures_bind_readUnsignedByte trivial fun b2 => ?_
    by_cases second : toInt b2 = 0xaa
    · simp only [second, not_true, if_false]
      exact Reader.Ensures.pure ⟨rfl, trivial, rfl⟩
    · simp only [second, not_false_eq_true, if_true]
      exact Reader.Ensures.throw trivial
  · simp only [first, ne_eq, not_false_eq_true, if_true]
    exact Reader.Ensures.throw trivial

private theorem holding_testSequenceCounter :
    Holding .ieTestSequenceCounter ElementClass.ieTestSequenceCounter.decode := by
  refine (ensures_readOctets trivial 2 (by decide)).bind ?_
  rintro _ value ⟨_, small⟩
  by_cases outside : value.toInt < 0 ∨ 65535 < value.toInt
  · simp only [outside, if_true]
    exact Reader.Ensures.throw trivial
  · simp only [outside, if_false]
    exact Reader.Ensures.pure ⟨rfl, small, rfl⟩

/-- Every decoder returns elements of its class, in width and whole. -/
theorem ElementClass.ensures_holds (c : ElementClass) :
    Reader.Ensures c.decode (fun _ => c.Holds) fun _ => True := by
  cases c with
  | ieAckFileOrSectionQualifier | ieSelectAndCallQualifier =>
    exact holding_octet fun b => ⟨rfl, ⟨(low_bits b).1, (low_bits b).2.1⟩, rfl⟩
  | ieBinaryCounterReading =>
    refine (ensures_readOctets trivial 4 (by decide)).bind fun _ counterReading _ => ?_
    exact ensures_bind_readUnsignedByte trivial fun b =>
      Reader.Ensures.pure ⟨rfl, (low_bits b).2.2.1, rfl⟩
  | ieStatusOfFile => exact holding_octet fun b => ⟨rfl, (low_bits b).2.2.1, rfl⟩
  | ieCauseOfInitialization | ieFileReadyQualifier | ieSectionReadyQualifier
  | ieQualifierOfSetPointCommand =>
    exact holding_octet fun b => ⟨rfl, (low_bits b).2.2.2.2.2, rfl⟩
  | ieQualifierOfParameterOfMeasuredValues =>
    exact holding_octet fun b => ⟨rfl, (low_bits b).2.2.2.1, rfl⟩
  | ieQualifierOfCounterInterrogation =>
    exact holding_octet fun b => ⟨rfl, ⟨(low_bits b).2.2.2.1, (low_bits b).2.2.2.2.1⟩, rfl⟩
  | ieValueWithTransientState => exact holding_octet fun b => ⟨rfl, (transient_inWidth b).symm, rfl⟩
  | ieBinaryStateInformation | ieStatusAndStatusChanges =>
    exact holding_any ensures_readInt fun _ => ⟨rfl, trivial, rfl⟩
  | ieTime16 | ieTime24 | ieTime56 =>
    exact holding_any (ensures_readTime _) fun _ => ⟨rfl, trivial, rfl⟩
  | ieNormalizedValue | ieScaledValue =>
    exact holding_normalized fun v inside => ⟨rfl, inside, rfl⟩
  | ieLengthOfFileOrSection | ieNameOfFile =>
    exact holding_octets (by decide) fun v small => ⟨rfl, small, rfl⟩
  | ieShortFloat =>
    exact holding_octets (f := fun v => .ieShortFloat ⟨v⟩) (by decide) fun v _ => ⟨rfl, trivial, rfl⟩
  | ieFileSegment => exact holding_fileSegment
  | ieFixedTestBitPattern => exact holding_fixedTestBitPattern
  | ieTestSequenceCounter => exact holding_testSequenceCounter
  | _ => exact holding_raw (fun _ => rfl) (fun _ small => small) fun _ => rfl

end Elements

namespace InformationObject

/-- An object of the layout, as its decoder returns it for the number of sets. -/
structure Holds (ioaFieldLength numberOfSequenceElements : Nat) (layout : SetLayout)
    (object : InformationObject) : Prop where
  address : object.informationObjectAddress.toNat < 2 ^ (8 * ioaFieldLength)
  within : SetsWithin numberOfSequenceElements object.informationElements layout
  received : ∀ row ∈ object.informationElements, ∀ e ∈ row, e.received = e

private theorem ensures_decodeSet_holds (set : List ElementClass) :
    Reader.Ensures (decodeSet set) (fun _ row => SetWithin set row ∧ ∀ e ∈ row, e.received = e)
      fun _ => True := by
  refine (Reader.Ensures.mapM_keys fun c _ => c.ensures_holds).mono ?_ fun _ _ => trivial
  intro _ row related
  induction related with
  | nil =>
    exact ⟨⟨rfl, fun _ member => by cases member⟩, fun _ member => by cases member⟩
  | cons first _ ih =>
    obtain ⟨⟨classes, inWidth⟩, received⟩ := ih
    refine ⟨⟨?_, List.forall_mem_cons.mpr ⟨first.inWidth, inWidth⟩⟩,
      List.forall_mem_cons.mpr ⟨first.received, received⟩⟩
    rw [List.map_cons, first.getClass, classes]

private theorem ensures_sets_hold (numberOfSequenceElements : Nat) (layout : SetLayout) :
    Reader.Ensures (layout.decode numberOfSequenceElements)
      (fun _ sets => SetsWithin numberOfSequenceElements sets layout ∧
        ∀ row ∈ sets, ∀ e ∈ row, e.received = e) fun _ => True := by
  cases layout with
  | looped set =>
    refine (Reader.Ensures.times (ensures_decodeSet_holds set)).mono ?_ fun _ _ => trivial
    rintro _ sets ⟨rows, count⟩
    have each := rows.forall_mem fun _ _ row => row
    exact ⟨⟨count, fun row member => (each row member).1⟩, fun row member => (each row member).2⟩
  | single set =>
    refine (ensures_decodeSet_holds set).bindPure fun _ row holds => ?_
    exact ⟨⟨row, rfl, holds.1⟩, List.forall_mem_singleton.mpr holds.2⟩
  | empty => exact Reader.Ensures.pure ⟨rfl, fun _ member => by cases member⟩

theorem ensures_holds {aSduType : ASduType} {numberOfSequenceElements ioaFieldLength : Nat}
    {layout : SetLayout} (reserved : Option ReservedASduTypeDecoder)
    (found : layoutOf aSduType = some layout) (inside : ioaFieldLength ≤ 3) :
    Reader.Ensures (decode aSduType numberOfSequenceElements ioaFieldLength reserved)
      (fun _ => Holds ioaFieldLength numberOfSequenceElements layout) fun _ => True := by
  refine (ensures_readOctets trivial ioaFieldLength (by omega)).bind ?_
  rintro _ address ⟨_, small⟩
  simp only [found]
  exact (ensures_sets_hold numberOfSequenceElements layout).bindPure
    fun _ sets holds => ⟨small, holds.1, holds.2⟩

theorem SetsWithin.setCount {numberOfSequenceElements : Nat} {sets : List (List InformationElement)}
    {layout : SetLayout} (within : SetsWithin numberOfSequenceElements sets layout) :
    SetsWithin (layout.setCount numberOfSequenceElements) sets layout ∧
      sets.length = layout.setCount numberOfSequenceElements := by
  cases layout with
  | looped set => exact ⟨within, within.1⟩
  | single set =>
    obtain ⟨row, rfl, _⟩ := id within
    exact ⟨within, rfl⟩
  | empty =>
    obtain rfl := id within
    exact ⟨rfl, rfl⟩

end InformationObject

namespace ASdu

/-- The contents of an ASDU that was decoded. -/
inductive ContentsHeld (settings : ConnectionSettings) (aSdu : ASdu) : Prop
  | objects (layout : SetLayout) (objects : List InformationObject) (count : Nat)
      (shape : aSdu.Shape layout objects count) (few : count ≤ 127)
      (addresses : ∀ object ∈ objects,
        object.informationObjectAddress.toNat < 2 ^ (8 * settings.ioaFieldLength))
      (received : ∀ object ∈ objects, ∀ row ∈ object.informationElements, ∀ e ∈ row, e.received = e)
  | reserved (unknown : layoutOf aSdu.aSduType = none) (low : aSdu.aSduType.getId < 128)
  | privateInformation (high : 128 ≤ aSdu.aSduType.getId) (none : aSdu.informationObjects = none)

/-- An ASDU as the decoder returns it. -/
structure Held (settings : ConnectionSettings) (aSdu : ASdu) : Prop where
  originatorAddress : if settings.cotFieldLength = 2 then aSdu.originatorAddress.toNat < 2 ^ 8
    else aSdu.originatorAddress = -1
  commonAddress : aSdu.commonAddress.toNat < 2 ^ (8 * settings.commonAddressFieldLength)
  contents : aSdu.ContentsHeld settings

variable {settings : ConnectionSettings}

private theorem ensures_originatorAddress_held :
    Reader.Ensures (readOriginatorAddress settings)
      (fun _ address => if settings.cotFieldLength = 2 then address.toNat < 2 ^ 8 else address = -1)
      fun _ => True := by
  rw [readOriginatorAddress]
  by_cases two : settings.cotFieldLength = 2
  · simp only [two, if_true]
    refine ensures_readUnsignedByte trivial fun b => ?_
    rw [toInt, BitVec.toNat_setWidth]
    omega
  · simp only [two, if_false]
    exact Reader.Ensures.pure rfl

private theorem ensures_commonAddress_held :
    Reader.Ensures (readCommonAddress settings)
      (fun _ address => address.toNat < 2 ^ (8 * settings.commonAddressFieldLength)) fun _ => True := by
  rw [readCommonAddress]
  rcases settings.commonAddress_range with one | two
  · simp only [one, if_true]
    refine ensures_readUnsignedByte trivial fun b => ?_
    rw [toInt, BitVec.toNat_setWidth]
    omega
  · simp only [two, OfNat.ofNat_ne_one, if_false]
    refine ensures_bind_readUnsignedByte trivial fun b1 => ?_
    refine ensures_bind_readUnsignedByte trivial fun b2 => Reader.Ensures.pure ?_
    have first := b1.isLt
    have second := b2.isLt
    refine Nat.or_lt_two_pow ?_ ?_
    · rw [toInt, BitVec.toNat_setWidth]
      omega
    · rw [toInt, BitVec.toNat_shiftLeft, BitVec.toNat_setWidth, Nat.shiftLeft_eq]
      omega

private theorem standardized_shape {type : ASduType} {layout : SetLayout} {sequence test negative : Bool}
    {cause : Option CauseOfTransmission} {originatorAddress commonAddress : JInt}
    {objects : List InformationObject} {count : Nat} (found : layoutOf type = some layout)
    (holds : ∀ object ∈ objects,
      object.Holds settings.ioaFieldLength (if sequence then count else 1) layout)
    (number : objects.length = if sequence then 1 else count) :
    ∃ aSdu, standardized type sequence cause test negative originatorAddress commonAddress objects =
        .ok aSdu ∧ aSdu.originatorAddress = originatorAddress ∧ aSdu.commonAddress = commonAddress ∧
      aSdu.Shape layout objects (if sequence then layout.setCount count else count) := by
  have within := fun object member => (holds object member).within.setCount
  cases sequence with
  | false =>
    rw [if_neg Bool.false_ne_true] at number
    refine ⟨_, rfl, rfl, rfl, ⟨found, ⟨rfl, rfl⟩, number,
      fun object member => (holds object member).within, fun single => ?_, ?_⟩⟩
    · exact absurd single Bool.false_ne_true
    · rw [number]
      rfl
  | true =>
    rw [if_pos rfl] at number
    obtain ⟨object, rfl⟩ := List.length_eq_one_iff.mp number
    have only := within object (List.mem_singleton_self object)
    refine ⟨_, rfl, rfl, rfl, ⟨found, ⟨rfl, rfl⟩, rfl, List.forall_mem_singleton.mpr only.1,
      fun _ => List.forall_mem_singleton.mpr only.2, ?_⟩⟩
    rw [only.2]
    rfl

private theorem standardized_header {type : ASduType} {sequence test negative : Bool}
    {cause : Option CauseOfTransmission} {originatorAddress commonAddress : JInt}
    {objects : List InformationObject} {aSdu : ASdu}
    (built : standardized type sequence cause test negative originatorAddress commonAddress objects =
      .ok aSdu) :
    aSdu.aSduType = type ∧ aSdu.originatorAddress = originatorAddress ∧
      aSdu.commonAddress = commonAddress := by
  cases sequence with
  | false =>
    obtain rfl := Except.ok.inj built
    exact ⟨rfl, rfl, rfl⟩
  | true =>
    cases objects with
    | nil => cases built
    | cons first others =>
      obtain rfl := Except.ok.inj built
      exact ⟨rfl, rfl, rfl⟩

/-- Whatever the octets, a decoded ASDU is in shape and in width. -/
theorem ensures_held (aSduLength : Int) :
    Reader.Ensures (decode settings aSduLength) (fun _ aSdu => aSdu.Held settings) fun _ => True := by
  unfold decode
  refine ensures_bind_readUnsignedByte trivial fun typeCode => ?_
  cases known : ASduType.typeFor (toInt typeCode).toNat with
  | none => exact Reader.Ensures.throw trivial
  | some type =>
    refine ensures_bind_readUnsignedByte trivial fun qualifier => ?_
    refine ensures_bind_readUnsignedByte trivial fun causeCode => ?_
    refine ensures_originatorAddress_held.bind fun _ originatorAddress originator => ?_
    refine ensures_commonAddress_held.bind fun _ commonAddress common => ?_
    have few : countOf qualifier ≤ 127 := Nat.le_of_lt_succ (countOf_lt qualifier)
    by_cases low : (toInt typeCode).toNat < 128
    · have standard : type.getId < 128 := by rwa [ASduType.getId_of_typeFor known]
      rw [if_pos low]
      cases found : layoutOf type with
      | some layout =>
        refine (Reader.Ensures.times (InformationObject.ensures_holds _ found settings.ioa_range.2)).bind ?_
        rintro _ objects ⟨rows, number⟩
        have holds := rows.forall_mem fun _ _ object => object
        obtain ⟨aSdu, built, sameOriginator, sameCommon, shape⟩ := standardized_shape found holds number
        refine Reader.Ensures.lift built ⟨sameOriginator ▸ originator, sameCommon ▸ common, ?_⟩
        refine .objects layout objects _ shape ?_ (fun object member => (holds object member).address)
          fun object member => (holds object member).received
        split
        · cases layout with
          | looped set => exact few
          | single set => exact Nat.le_of_ble_eq_true rfl
          | empty => exact Nat.zero_le _
        · exact few
      | none =>
        refine (Reader.Ensures.times ((InformationObject.ensures_decode_unknown _ found
          settings.ioa_range.2).mono (fun _ _ read => read) fun _ _ => trivial)).bind ?_
        intro _ objects _
        refine Reader.Ensures.lift_any (fun aSdu built => ?_) fun _ _ => trivial
        obtain ⟨sameType, sameOriginator, sameCommon⟩ := standardized_header built
        exact ⟨sameOriginator ▸ originator, sameCommon ▸ common,
          .reserved (sameType ▸ found) (sameType ▸ standard)⟩
    · have high : 128 ≤ type.getId := by
        rw [ASduType.getId_of_typeFor known]
        exact Nat.le_of_not_lt low
      rw [if_neg low]
      by_cases negative : remainingLength settings aSduLength - 4 < 0
      · simp only [readPrivateInformation, negative, if_true]
        exact Reader.Ensures.throw trivial
      · simp only [readPrivateInformation, negative, if_false]
        exact (Reader.Ensures.word (R := fun _ _ => True) (fun _ _ => trivial) trivial).bindPure
          fun _ _ _ => ⟨originator, common, .privateInformation high rfl⟩

end ASdu

end J60870
