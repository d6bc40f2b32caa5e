import J60870.Ie.InformationObject

/-! What a decoder returns spells the octets it took: nothing of them is lost in the
fields of an element, except the payload of a NaN. -/

namespace J60870

open Lib

/-- The element is no short float that is NaN. -/
def InformationElement.IsNumber : InformationElement → Prop
  | .ieShortFloat value => ¬ value.IsNaN
  | _ => True

instance : DecidablePred InformationElement.IsNumber := fun e => by
  apply InformationElement.casesOn (motive := fun e => Decidable e.IsNumber) e <;> intros <;>
    dsimp only [InformationElement.IsNumber] <;> infer_instance

/-- The element can be encoded, and is encoded to the given octets unless it is NaN. -/
structure InformationElement.Spells (bs : List Octet) (e : InformationElement) : Prop where
  encodable : e.Encodable
  wire : e.IsNumber → e.wire = bs

def JavaException.Checked (e : JavaException) : Prop := e.isIOException

theorem endOfStream_checked : endOfStream.Checked := rfl

section Elements

/-- A reader of one element, which fails with checked exceptions only. -/
private abbrev Spelling (p : InputStream InformationElement) : Prop :=
  Reader.Ensures p InformationElement.Spells JavaException.Checked

private theorem spelling_octet {f : JInt → InformationElement} {octet : Octet → Octet}
    (encodable : ∀ v, (f v).Encodable) (wire : ∀ b, (f (toInt b)).wire = [octet b])
    (written : ∀ b, octet b = b) : Spelling (do return f (← readUnsignedByte)) :=
  ensures_bind_readUnsignedByte endOfStream_checked fun b =>
    Reader.Ensures.pure ⟨encodable _, fun _ => by rw [wire, written]⟩

private theorem spelling_raw {f : JInt → InformationElement} (encodable : ∀ v, (f v).Encodable)
    (same : ∀ v, (f v).wire = [toByte v]) : Spelling (do return f (← readUnsignedByte)) :=
  spelling_octet encodable (fun b => same (toInt b)) toByte_toInt

private theorem spelling_octets {f : JInt → InformationElement} {n : Nat} (inside : n ≤ 4)
    (encodable : ∀ v, (f v).Encodable) (same : ∀ v, (f v).IsNumber → (f v).wire = octets v n) :
    Spelling (do return f (← readOctets n)) := by
  refine (ensures_readOctets endOfStream_checked n inside).map ?_
  rintro _ v ⟨rfl, _⟩
  exact ⟨encodable v, same v⟩

private theorem nibbles_written : ∀ b : Octet,
    toByte ((toInt b &&& 0x0f) ||| (((toInt b).sshiftRight 4 &&& 0x0f) <<< 4)) = b := by
  decide +kernel

private theorem request_written : ∀ b : Octet,
    toByte ((toInt b &&& 0x3f) ||| (((toInt b).sshiftRight 6 &&& 0x03) <<< 6)) = b := by
  decide +kernel

private theorem flagged_written : ∀ b : Octet,
    withFlags (toInt b &&& 0x7f) (if hasMask (toInt b) 0x80 then [0x80] else []) = b := by
  decide +kernel

private theorem initialization_written : ∀ b : Octet,
    (if hasMask (toInt b) 0x80 then toByte ((toInt b &&& 0x7f) ||| 0x80)
      else toByte (toInt b &&& 0x7f)) = b := by
  decide +kernel

private theorem parameter_written : ∀ b : Octet,
    withFlags (toInt b &&& 0x3f) ((if hasMask (toInt b) 0x40 then [0x40] else []) ++
      (if hasMask (toInt b) 0x80 then [0x80] else [])) = b := by
  decide +kernel

private theorem transient_written : ∀ b : Octet,
    let value := if hasMask (toInt b) 0x40 then toInt b ||| 0xffffff80 else toInt b &&& 0x3f
    (if hasMask (toInt b) 0x80 then toByte (value ||| 0x80) else toByte (value &&& 0x7f)) = b := by
  decide +kernel

private theorem counterReading_written : ∀ b : Octet,
    orFlags BinaryCounterReadingFlag.values BinaryCounterReadingFlag.mask
      (flagsFor BinaryCounterReadingFlag.values BinaryCounterReadingFlag.mask (toInt b))
      (toByte (toInt b &&& 0x1f)) = b := by
  decide +kernel

private theorem statusOfFile_written : ∀ b : Octet,
    withFlags (toInt b &&& 0x1f) (masksOf StatusOfFileFlag.values StatusOfFileFlag.mask
      (flagsFor StatusOfFileFlag.values StatusOfFileFlag.mask (toInt b))) = b := by
  decide +kernel

private theorem spelling_readInt {f : JInt → InformationElement} (encodable : ∀ v, (f v).Encodable)
    (same : ∀ v, (f v).wire = (octets v 4).reverse) : Spelling (f <$> readInt) := by
  refine Reader.Ensures.map (R := fun bs v => (octets v 4).reverse = bs) ?_
    fun bs v spelled => ⟨encodable v, fun _ => (same v).trans spelled⟩
  refine ensures_bind_readUnsignedByte endOfStream_checked fun b1 => ?_
  refine ensures_bind_readUnsignedByte endOfStream_checked fun b2 => ?_
  refine ensures_bind_readUnsignedByte endOfStream_checked fun b3 => ?_
  refine ensures_bind_readUnsignedByte endOfStream_checked fun b4 => Reader.Ensures.pure ?_
  have gathered : gather (0#32) 0 [b4, b3, b2, b1] =
      (toInt b1 <<< 24) ||| (toInt b2 <<< 16) ||| (toInt b3 <<< 8) ||| toInt b4 := by
    change (((0#32 ||| (toInt b4 <<< 0)) ||| (toInt b3 <<< 8)) ||| (toInt b2 <<< 16)) |||
      (toInt b1 <<< 24) = _
    rw [BitVec.shiftLeft_zero, BitVec.zero_or]
    exact or_reverse ..
  have octets := octets_gather (w := 32) [b4, b3, b2, b1] (by simp)
  rw [gathered] at octets
  exact congrArg List.reverse octets

private theorem octets_normalized (b1 b2 : Octet) :
    octets (toInt b1 ||| (b2.signExtend 32 <<< 8)) 2 = [b1, b2] := by
  have first : octet (toInt b1 ||| (b2.signExtend 32 <<< 8)) 0 = b1 := by
    apply BitVec.eq_of_getLsbD_eq
    intro i bound
    simp [octet, toInt, bound, show i < 32 by omega]
  have second : octet (toInt b1 ||| (b2.signExtend 32 <<< 8)) 1 = b2 := by
    apply BitVec.eq_of_getLsbD_eq
    intro i bound
    simp only [octet, toInt, BitVec.getLsbD_extractLsb', BitVec.getLsbD_or, BitVec.getLsbD_setWidth,
      BitVec.getLsbD_shiftLeft, BitVec.getLsbD_signExtend]
    simp [bound, show 8 + i < 32 by omega, show i < 32 by omega]
  exact congrArg₂ (fun first second => [first, second]) first second

private theorem spelling_readNormalized {f : JInt → InformationElement}
    (encodable : ∀ v, (f v).Encodable) (same : ∀ v, (f v).wire = octets v 2) :
    Spelling (f <$> readNormalized) := by
  refine Reader.Ensures.map (R := fun bs v => octets v 2 = bs) ?_
    fun bs v spelled => ⟨encodable v, fun _ => (same v).trans spelled⟩
  exact Reader.Ensures.cons endOfStream_checked fun b1 =>
    Reader.Ensures.cons endOfStream_checked fun b2 =>
    Reader.Ensures.pure (octets_normalized b1 b2)

private theorem spelling_readTime {m : Nat} {f : Vector Octet m → InformationElement}
    (encodable : ∀ v, (f v).Encodable) (same : ∀ v, (f v).wire = v.toList) :
    Spelling (f <$> readTime m) :=
  (Reader.Ensures.vector (R := fun bs v => v.toList = bs) (fun _ => rfl) endOfStream_checked).map
    fun _ v spelled => ⟨encodable v, fun _ => (same v).trans spelled⟩

theorem whole_segment {segment : List Octet} {length : JInt} (small : length.toNat < 2 ^ 8)
    (size : segment.length = length.toNat) :
    InsideSegment segment 0 length ∧ window segment 0 length = segment := by
  have value : length.toInt = length.toNat := BitVec.toInt_eq_toNat_of_lt (by omega)
  refine ⟨⟨by decide, by omega, by simp; omega⟩, ?_⟩
  rw [window, value, Int.toNat_natCast, ← size]
  simp

private theorem spelling_fileSegment : Spelling ElementClass.ieFileSegment.decode := by
  refine ensures_bind_readUnsignedByte endOfStream_checked fun b => ?_
  have small : (toInt b).toNat < 2 ^ 8 := by
    rw [toInt, BitVec.toNat_setWidth]
    omega
  refine (Reader.Ensures.word (R := fun bs segment => bs = segment ∧ segment.length = (toInt b).toNat)
    (fun bs size => ⟨rfl, size⟩) endOfStream_checked).bindPure ?_
  rintro segment _ ⟨rfl, size⟩
  obtain ⟨inside, whole⟩ := whole_segment small size
  refine ⟨inside, fun _ => ?_⟩
  change toByte (toInt b) :: window segment 0 (toInt b) = _
  rw [whole, toByte_toInt]

private theorem spelling_fixedTestBitPattern : Spelling ElementClass.ieFixedTestBitPattern.decode := by
  refine ensures_bind_readUnsignedByte endOfStream_checked fun b1 => ?_
  by_cases first : toInt b1 = 0x55
  · obtain rfl : b1 = 0x55 := by rw [← toByte_toInt b1, first]; rfl
    refine ensures_bind_readUnsignedByte endOfStream_checked fun b2 => ?_
    by_cases second : toInt b2 = 0xaa
    · obtain rfl : b2 = 0xaa := by rw [← toByte_toInt b2, second]; rfl
      exact Reader.Ensures.pure ⟨trivial, fun _ => rfl⟩
    · simp only [second, ne_eq, not_false_eq_true, if_true]
      exact Reader.Ensures.throw rfl
  · simp only [first, ne_eq, not_false_eq_true, if_true]
    exact Reader.Ensures.throw rfl

private theorem spelling_testSequenceCounter : Spelling ElementClass.ieTestSequenceCounter.decode := by
  refine (ensures_readOctets endOfStream_checked 2 (by decide)).bind ?_
  rintro _ value ⟨rfl, small⟩
  -- two octets are never out of the range the constructor checks
  have inside : ¬ (value.toInt < 0 ∨ 65535 < value.toInt) := by
    rw [BitVec.toInt_eq_toNat_of_lt (by omega)]
    omega
  simp only [inside, if_false]
  exact Reader.Ensures.pure ⟨trivial, fun _ => (List.append_nil _).symm⟩

private theorem spelling_shortFloat : Spelling ElementClass.ieShortFloat.decode := by
  refine spelling_octets (f := fun v => .ieShortFloat ⟨v⟩) (by decide) (fun _ => trivial)
    fun v number => ?_
  exact congrArg (octets · 4) (if_neg number)

theorem ElementClass.ensures_decode (c : ElementClass) :
    Reader.Ensures c.decode InformationElement.Spells JavaException.Checked := by
  cases c with
  | ieAckFileOrSectionQualifier | ieSelectAndCallQualifier =>
    exact spelling_octet (fun _ => trivial) (fun _ => rfl) nibbles_written
  | ieBinaryStateInformation | ieStatusAndStatusChanges =>
    exact spelling_readInt (fun _ => trivial) fun _ => rfl
  | ieFileSegment => exact spelling_fileSegment
  | ieShortFloat => exact spelling_shortFloat
  | ieTestSequenceCounter => exact spelling_testSequenceCounter
  | ieFixedTestBitPattern => exact spelling_fixedTestBitPattern
  | ieNormalizedValue | ieScaledValue => exact spelling_readNormalized (fun _ => trivial) fun _ => rfl
  | ieTime16 | ieTime24 | ieTime56 => exact spelling_readTime (fun _ => trivial) fun _ => rfl
  | ieNameOfFile | ieLengthOfFileOrSection =>
    exact spelling_octets (by decide) (fun _ => trivial) fun _ _ => rfl
  | ieCauseOfInitialization =>
    exact spelling_octet (fun _ => trivial) (fun _ => rfl) initialization_written
  | ieFileReadyQualifier | ieSectionReadyQualifier | ieQualifierOfSetPointCommand =>
    exact spelling_octet (fun _ => trivial) (fun _ => rfl) flagged_written
  | ieQualifierOfParameterOfMeasuredValues =>
    exact spelling_octet (fun _ => trivial) (fun _ => rfl) parameter_written
  | ieQualifierOfCounterInterrogation =>
    exact spelling_octet (fun _ => trivial) (fun _ => rfl) request_written
  | ieStatusOfFile =>
    exact spelling_octet (fun _ => trivial) (fun _ => rfl) statusOfFile_written
  | ieValueWithTransientState =>
    exact spelling_octet (fun _ => trivial) (fun _ => rfl) transient_written
  | ieBinaryCounterReading =>
    refine (ensures_readOctets endOfStream_checked 4 (by decide)).bind ?_
    rintro _ counterReading ⟨rfl, _⟩
    refine ensures_bind_readUnsignedByte endOfStream_checked fun b => ?_
    refine Reader.Ensures.pure ⟨trivial, fun _ => ?_⟩
    exact congrArg (octets counterReading 4 ++ [·]) (counterReading_written b)
  | _ => exact spelling_raw (fun _ => trivial) fun _ => rfl

end Elements

/-- How many sets a case of the switch reads. -/
def SetLayout.setCount (numberOfSequenceElements : Nat) : SetLayout → Nat
  | .looped _ => numberOfSequenceElements
  | .single _ => 1
  | .empty => 0

theorem ensures_decodeSet (set : List ElementClass) :
    Reader.Ensures (decodeSet set) (Rows InformationElement.Spells) JavaException.Checked :=
  (Reader.Ensures.mapM fun c _ => c.ensures_decode).mono (fun _ _ read => read.1) fun _ checked => checked

theorem SetLayout.ensures_decode (numberOfSequenceElements : Nat) (layout : SetLayout) :
    Reader.Ensures (layout.decode numberOfSequenceElements)
      (fun bs sets => Rows InformationElement.Spells bs sets.flatten ∧
        sets.length = layout.setCount numberOfSequenceElements)
      JavaException.Checked := by
  cases layout with
  | looped set =>
    refine (Reader.Ensures.times (ensures_decodeSet set)).mono ?_ fun _ checked => checked
    rintro bs sets ⟨rows, count⟩
    exact ⟨rows.flatten, count⟩
  | single set =>
    refine (ensures_decodeSet set).bindPure fun bs row spelled => ⟨?_, rfl⟩
    rwa [List.flatten_singleton]
  | empty => exact Reader.Ensures.pure ⟨.nil, rfl⟩

namespace InformationObject

/-- None of its short floats is NaN. -/
def HasNumbers (object : InformationObject) : Prop :=
  ∀ e ∈ object.informationElements.flatten, e.IsNumber

instance : DecidablePred HasNumbers := fun object => by unfold HasNumbers; infer_instance

/-- The object has the given number of sets, can be encoded, and is encoded to the given
octets unless it holds a NaN. -/
structure Spells (ioaFieldLength count : Nat) (bs : List Octet) (object : InformationObject) :
    Prop where
  count : object.informationElements.length = count
  encodable : object.Encodable
  wire : object.HasNumbers → object.wire ioaFieldLength = bs

variable {aSduType : ASduType} {numberOfSequenceElements ioaFieldLength : Nat}

theorem ensures_decode {layout : SetLayout} (reserved : Option ReservedASduTypeDecoder)
    (found : layoutOf aSduType = some layout) (inside : ioaFieldLength ≤ 3) :
    Reader.Ensures (decode aSduType numberOfSequenceElements ioaFieldLength reserved)
      (Spells ioaFieldLength (layout.setCount numberOfSequenceElements)) JavaException.Checked := by
  refine (ensures_readOctets endOfStream_checked ioaFieldLength (by omega)).bind ?_
  rintro _ address ⟨rfl, _⟩
  simp only [found]
  refine (layout.ensures_decode numberOfSequenceElements).bindPure ?_
  rintro bs sets ⟨rows, count⟩
  refine ⟨count, rows.forall_mem fun _ _ spelled => spelled.encodable, fun numbers => ?_⟩
  exact congrArg (octets address ioaFieldLength ++ ·)
    (rows.flatMap_eq (fun _ _ spelled => spelled.wire) numbers)

/-- The types of the default case are read by the decoder of the user's, or refused. -/
theorem ensures_decode_unknown (reserved : Option ReservedASduTypeDecoder)
    (unknown : layoutOf aSduType = none) (inside : ioaFieldLength ≤ 3) :
    Reader.Ensures (decode aSduType numberOfSequenceElements ioaFieldLength reserved)
      (fun _ _ => reserved ≠ none) (fun e => reserved = none → e.Checked) := by
  refine (ensures_readOctets (fun _ => rfl) ioaFieldLength (by omega)).bind fun _ _ _ => ?_
  simp only [unknown]
  cases reserved with
  | none => exact Reader.Ensures.throw fun _ => rfl
  | some decoder =>
    by_cases supported : aSduType.getId ≤ 127 ∧ aSduType ∈ decoder.getSupportedTypes
    · simp only [supported, and_self, if_true]
      intro s
      cases read : decoder.decode aSduType s with
      | error e => exact fun absent => by cases absent
      | ok returned =>
        obtain ⟨n, _, rest⟩ := decoder.forward aSduType s returned.1 returned.2 read
        exact ⟨s.take n, by rw [rest, List.take_append_drop], by simp⟩
    · simp only [supported, if_false]
      exact Reader.Ensures.throw fun _ => rfl

end InformationObject

end J60870
