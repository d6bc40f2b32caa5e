import J60870.Connection.Sending

namespace J60870

open Lib Method

def IsEntry (row : List InformationElement) : Prop :=
  InformationObject.SetFits [.ieNameOfFile, .ieLengthOfFileOrSection, .ieStatusOfFile, .ieTime56] row

theorem IsEntry.delivered {row : List InformationElement} (entry : IsEntry row) :
    row.map InformationElement.delivered = row := by
  have each : ∀ e ∈ row, e.delivered = e := by
    intro e member
    have known : e.getClass ∈ row.map InformationElement.getClass := List.mem_map_of_mem member
    rw [entry.1] at known
    refine InformationElement.delivered_eq_self ?_ ?_ <;>
      · intro same
        rw [same] at known
        revert known
        decide
  exact (List.map_congr_left each).trans row.map_id

theorem IsEntry.wire_ne_nil {row : List InformationElement} (entry : IsEntry row) :
    row.flatMap InformationElement.wire ≠ [] := by
  obtain ⟨classes, _⟩ := entry
  cases row with
  | nil => cases classes
  | cons first others =>
    have head : first.getClass = .ieNameOfFile := (List.cons.inj classes).1
    cases first <;> cases head
    simp [InformationElement.wire, octets]

namespace Connection

/-- The ASDU of `sendDirectory`. -/
def directoryASdu (originatorAddress commonAddress informationObjectAddress : JInt)
    (directory : List (List InformationElement)) : Except JavaException ASdu :=
  ASdu.standardized .F_DR_TA_1 false (some .fileTransfer) false false originatorAddress commonAddress
    [⟨informationObjectAddress, directory⟩]

/-- `sendDirectory`, behind the wait for the window, of a connection with this
originator address. -/
def sendDirectory (settings : ConnectionSettings)
    (originatorAddress commonAddress informationObjectAddress : JInt)
    (directory : List (List InformationElement)) : Body Unit :=
  match directoryASdu originatorAddress commonAddress informationObjectAddress directory with
  | .ok aSdu => send settings aSdu
  | .error e => throw e

/-- The octets are decoded to the last one, to an ASDU whose only information object holds
the entries. -/
def ArrivesWhole (settings : ConnectionSettings) (directory : List (List InformationElement))
    (octets : List Octet) : Prop :=
  ∃ aPdu aSdu object, APdu.decode settings octets = .ok (aPdu, []) ∧ aPdu.aSdu = some aSdu ∧
    aSdu.informationObjects = some [object] ∧ object.informationElements = directory

section Arrival

variable {settings : ConnectionSettings} {originatorAddress commonAddress informationObjectAddress : JInt}
  {row : List InformationElement} {others : List (List InformationElement)} {aSdu first : ASdu}

private theorem wire_of_entries
    (built : directoryASdu originatorAddress commonAddress informationObjectAddress (row :: others) =
      .ok aSdu)
    (one : directoryASdu originatorAddress commonAddress informationObjectAddress [row] = .ok first) :
    aSdu.wire settings = first.wire settings ++ others.flatten.flatMap InformationElement.wire := by
  obtain rfl := Except.ok.inj built
  obtain rfl := Except.ok.inj one
  simp [ASdu.wire, ASdu.contentsWire, InformationObject.wire, ASdu.addresses, ASdu.causeWire,
    ASdu.qualifier, ASdu.causeOctet]

private theorem shape_of_entry (entry : IsEntry row)
    (one : directoryASdu originatorAddress commonAddress informationObjectAddress [row] = .ok first) :
    first.Shape (.looped [.ieNameOfFile, .ieLengthOfFileOrSection, .ieStatusOfFile, .ieTime56])
      [⟨informationObjectAddress, [row]⟩] 1 := by
  obtain rfl := Except.ok.inj one
  refine ⟨rfl, ⟨rfl, rfl⟩, rfl, fun object member => ?_, fun _ object member => ?_, rfl⟩
  · obtain rfl := List.mem_singleton.mp member
    exact ⟨rfl, List.forall_mem_singleton.mpr (InformationObject.SetFits.within entry)⟩
  · obtain rfl := List.mem_singleton.mp member
    rfl

/-- Of a directory the decoder reads the first entry, and leaves the others in the stream. -/
theorem decode_directory (entry : IsEntry row)
    (built : directoryASdu originatorAddress commonAddress informationObjectAddress (row :: others) =
      .ok aSdu) {sendSeqNum receiveSeqNum : Nat} (send : sendSeqNum < 2 ^ 15)
    (receive : receiveSeqNum < 2 ^ 15) (short : (aSdu.wire settings).length ≤ 249) :
    ∃ delivered, APdu.decode settings (APdu.iFormatWire settings sendSeqNum receiveSeqNum aSdu) =
        .ok (.iFormat sendSeqNum receiveSeqNum delivered,
          others.flatten.flatMap InformationElement.wire) ∧
      delivered.informationObjects =
        some [⟨low informationObjectAddress (8 * settings.ioaFieldLength), [row]⟩] := by
  obtain ⟨first, one⟩ : ∃ first, directoryASdu originatorAddress commonAddress
      informationObjectAddress [row] = .ok first := ⟨_, rfl⟩
  have given : first.causeOfTransmission.isSome := by
    obtain rfl := Except.ok.inj one
    rfl
  have read := APdu.yields_iFormat sendSeqNum receiveSeqNum _ send receive short
    ((shape_of_entry entry one).yields_decode settings given (by decide) _)
    (others.flatten.flatMap InformationElement.wire)
  refine ⟨first.delivered settings, ?_, ?_⟩
  · rw [APdu.iFormatWire, APdu.frameWire, wire_of_entries built one]
    rw [wire_of_entries built one] at read
    simpa only [List.append_assoc] using read
  · rw [ASdu.delivered, (shape_of_entry entry one).contents.1]
    simp [InformationObject.delivered, entry.delivered]

theorem arrivesWhole_iff (entries : ∀ entry ∈ row :: others, IsEntry entry)
    (built : directoryASdu originatorAddress commonAddress informationObjectAddress (row :: others) =
      .ok aSdu) {sendSeqNum receiveSeqNum : Nat} (send : sendSeqNum < 2 ^ 15)
    (receive : receiveSeqNum < 2 ^ 15) (short : (aSdu.wire settings).length ≤ 249) :
    ArrivesWhole settings (row :: others) (APdu.iFormatWire settings sendSeqNum receiveSeqNum aSdu) ↔
      others = [] := by
  obtain ⟨entry, rest⟩ := List.forall_mem_cons.mp entries
  obtain ⟨delivered, decoded, held⟩ := decode_directory entry built send receive short
  constructor
  · rintro ⟨aPdu, _, object, whole, _, _, _⟩
    have left : others.flatten.flatMap InformationElement.wire = [] :=
      (Prod.mk.inj (Except.ok.inj (decoded.symm.trans whole))).2
    cases others with
    | nil => rfl
    | cons other others =>
      rw [List.flatten_cons, List.flatMap_append] at left
      exact absurd (List.append_eq_nil_iff.mp left).1 (rest other (by simp)).wire_ne_nil
  · rintro rfl
    exact ⟨_, delivered, _, decoded, rfl, held, rfl⟩

end Arrival

/-- On an open, started connection without I/O errors, a directory that fits arrives whole
exactly if it has one entry. -/
theorem sendDirectory_arrives_iff {settings : ConnectionSettings} {server : Bool}
    {actions : List Action} {ioFails : Nat → Bool} {now : Nat} {c : Connection}
    (reached : Run (Step settings server) (started settings ioFails now) actions c)
    (isOpen : c.closed = false) (isStarted : c.stopped = false) (sound : c.Sound)
    (originatorAddress commonAddress informationObjectAddress : JInt)
    (directory : List (List InformationElement)) (entries : ∀ entry ∈ directory, IsEntry entry)
    (atLeastOne : 1 ≤ directory.length) (aSdu : ASdu)
    (built : directoryASdu originatorAddress commonAddress informationObjectAddress directory = .ok aSdu)
    (fits : aSdu.Fits settings) :
    EmitsIFrame settings c
        (sendDirectory settings originatorAddress commonAddress informationObjectAddress directory)
        (ArrivesWhole settings directory) ↔
      directory.length = 1 := by
  have bounded := Bounded.of_run reached
  have short : (aSdu.wire settings).length ≤ 249 := by
    have whole := fits.2
    omega
  rw [sendDirectory, built, emitsIFrame_send_iff isOpen isStarted sound fits]
  cases directory with
  | nil => cases atLeastOne
  | cons row others =>
    rw [arrivesWhole_iff entries built bounded.send_lt bounded.receive_lt short, List.length_cons,
      Nat.add_eq_right, List.length_eq_zero_iff]

def sampleEntry (nameOfFile : JInt) : List InformationElement :=
  [.ieNameOfFile nameOfFile, .ieLengthOfFileOrSection 100,
    .ieStatusOfFile 0 (flagsFor StatusOfFileFlag.values StatusOfFileFlag.mask 0x20),
    .ieTime56 (Vector.replicate 7 0)]

private theorem sampleEntry_isEntry {nameOfFile : JInt} (small : nameOfFile.toNat < 2 ^ 16) :
    IsEntry (sampleEntry nameOfFile) :=
  ⟨rfl, List.forall_mem_cons.mpr ⟨small, by decide⟩⟩

theorem sendDirectory_arrives_iff_sample :
    EmitsIFrame {} (sampleState false sampleStart) (sendDirectory {} 0 1 5 [sampleEntry 1])
      (ArrivesWhole {} [sampleEntry 1]) :=
  (sendDirectory_arrives_iff (run_of_runActions rfl : Run (Step {} false)
    (started {} (fun _ => false) 0) sampleStart (sampleState false sampleStart)) rfl rfl (fun _ _ => rfl)
    0 1 5 _ (List.forall_mem_singleton.mpr (sampleEntry_isEntry (by decide))) (by decide) _ rfl
    (by decide +kernel)).mpr rfl

/-- Of two entries the first one arrives, and the other is left in the stream. -/
theorem not_sendDirectory_arrives :
    ∃ c, Run (Step {} false) (started {} (fun _ => false) 0) sampleStart c ∧ c.IsOpen ∧
      c.stopped = false ∧ c.Sound ∧ (∀ entry ∈ [sampleEntry 1, sampleEntry 2], IsEntry entry) ∧
      (∃ aSdu, directoryASdu 0 1 5 [sampleEntry 1, sampleEntry 2] = .ok aSdu ∧ aSdu.Fits {}) ∧
      ¬ EmitsIFrame {} c (sendDirectory {} 0 1 5 [sampleEntry 1, sampleEntry 2])
        (ArrivesWhole {} [sampleEntry 1, sampleEntry 2]) := by
  have entries : ∀ entry ∈ [sampleEntry 1, sampleEntry 2], IsEntry entry :=
    List.forall_mem_cons.mpr ⟨sampleEntry_isEntry (by decide),
      List.forall_mem_singleton.mpr (sampleEntry_isEntry (by decide))⟩
  have fits : (⟨.F_DR_TA_1, false, some .fileTransfer, false, false, 0, 1,
      some [⟨5, [sampleEntry 1, sampleEntry 2]⟩], none, 1⟩ : ASdu).Fits {} := by decide +kernel
  refine ⟨sampleState false sampleStart, run_of_runActions rfl, ⟨rfl, rfl⟩, rfl, fun _ _ => rfl, entries,
    ⟨_, rfl, fits⟩, fun emitted => ?_⟩
  have whole := (emitsIFrame_send_iff rfl rfl (fun _ _ => rfl) fits _).mp emitted
  have alone := (arrivesWhole_iff entries rfl (by decide) (by decide) (by decide +kernel)).mp whole
  cases alone

end Connection

end J60870
