import J60870.Framing
import J60870.Reencoding

namespace J60870

open Lib Reader

/-- The reader returns, or throws an `IOException`. -/
def Reports {α : Type} (p : InputStream α) (s : List Octet) : Prop :=
  match p s with
  | .ok _ => True
  | .error e => e.isIOException

section Reports

variable {α : Type} {p : InputStream α} {s : List Octet}

theorem Reports.of_error_checked (checked : ∀ e, p s = .error e → e.isIOException) : Reports p s := by
  unfold Reports
  cases outcome : p s with
  | ok read => trivial
  | error e => exact checked e outcome

/-- Whether a reader reports depends on its extent only. -/
theorem reports_iff_of_extent {f : List Octet → Except JavaException Nat} (extent : Extent p f) :
    Reports p s ↔ ∀ e, f s = .error e → e.isIOException := by
  have taken := extent s
  unfold Reports
  cases ext : f s with
  | error e =>
    rw [ext] at taken
    simp [taken]
  | ok n =>
    rw [ext] at taken
    obtain ⟨_, a, read⟩ := taken
    simp [read]

end Reports

namespace ASdu

variable {settings : ConnectionSettings} {aSduLength : Int} {s : List Octet}

/-- An ASDU of a private type with all its addresses, whose length does not even count
these. -/
def ShortPrivate (settings : ConnectionSettings) (aSduLength : Int) (s : List Octet) : Prop :=
  ∃ typeCode rest, s = typeCode :: rest ∧ 128 ≤ typeCode.toNat ∧
    1 + addressLength settings ≤ rest.length ∧ aSduLength < 2 + addressLength settings

theorem shortPrivate_cons (typeCode : Octet) (rest : List Octet) :
    ShortPrivate settings aSduLength (typeCode :: rest) ↔ 128 ≤ typeCode.toNat ∧
      1 + addressLength settings ≤ rest.length ∧ aSduLength < 2 + addressLength settings := by
  constructor
  · rintro ⟨_, _, split, short⟩
    obtain ⟨rfl, rfl⟩ := List.cons.inj split
    exact short
  · exact fun short => ⟨typeCode, rest, rfl, short⟩

private theorem private_checked_iff (type : ASduType) (high : 128 ≤ type.getId) (qualifier : Octet)
    (rest : List Octet) :
    (∀ e, andThen (fixed endOfStream (addressLength settings))
        (contentsExtent settings type (toInt qualifier) (aSduLength - 2 - addressLength settings))
        rest = .error e → e.isIOException) ↔
      ¬ (addressLength settings ≤ rest.length ∧ aSduLength < 2 + addressLength settings) := by
  -- The length left for the payload, if it is negative, is what makes a private type throw an
  -- unchecked exception.
  have other : ¬ type.getId < 128 := by omega
  by_cases enough : addressLength settings ≤ rest.length
  · by_cases short : aSduLength < 2 + addressLength settings
    · have negative : aSduLength - 2 - addressLength settings < 0 := by omega
      simp [andThen, fixed, contentsExtent, other, enough, short, negative, JavaException.isIOException]
    · have positive : ¬ aSduLength - 2 - addressLength settings < 0 := by omega
      simp only [andThen, fixed, contentsExtent, other, enough, short, positive, if_true, if_false,
        and_false, not_false_eq_true, iff_true]
      intro e failed
      split at failed <;> cases failed
      rename_i ended
      split at ended <;> cases ended
      rfl
  · simp [andThen, fixed, enough, endOfStream, JavaException.isIOException]

theorem reports_iff (noDecoder : settings.reservedASduTypeDecoder = none) :
    Reports (decode settings aSduLength) s ↔ ¬ ShortPrivate settings aSduLength s := by
  cases s with
  | nil =>
    refine iff_of_true rfl ?_
    rintro ⟨_, _, split, _⟩
    cases split
  | cons typeCode rest =>
    rw [shortPrivate_cons]
    by_cases low : typeCode.toNat < 128
    · refine iff_of_true (Reports.of_error_checked fun e failed => ?_) fun short => by omega
      exact (ensures_decode settings aSduLength typeCode).of_error failed noDecoder low
    · have range : IsPrivate typeCode.toNat := ⟨by omega, by omega⟩
      have found : ASduType.typeFor typeCode.toNat = some (.PRIVATE ⟨_, range⟩) :=
        ASduType.typeFor_getId (.PRIVATE ⟨_, range⟩)
      have high : 128 ≤ (ASduType.PRIVATE ⟨_, range⟩).getId := range.1
      rw [reports_iff_of_extent (extent_aSduDecode settings aSduLength)]
      unfold aSduExtent
      simp only [withNext_eq_error, found]
      cases rest with
      | nil => simp [withNext, endOfStream, JavaException.isIOException]
      | cons qualifier rest =>
        simp only [withNext_eq_error]
        rw [private_checked_iff _ high, List.length_cons]
        refine not_congr ⟨?_, ?_⟩
        · rintro ⟨enough, short⟩
          exact ⟨range.1, by omega, short⟩
        · rintro ⟨_, enough, short⟩
          exact ⟨by omega, short⟩

end ASdu

namespace APdu

variable {settings : ConnectionSettings} {s : List Octet}

/-- An I frame with such an ASDU. -/
def ShortPrivate (settings : ConnectionSettings) (s : List Octet) : Prop :=
  ∃ length c1 c2 c3 c4 rest, s = START_FLAG :: length :: c1 :: c2 :: c3 :: c4 :: rest ∧
    MIN_APDU_LENGTH ≤ length.toNat ∧ length.toNat ≤ MAX_APDU_LENGTH ∧
    ApciType.apciTypeFor c1 = .I_FORMAT ∧
    ASdu.ShortPrivate settings (length.toNat - CONTROL_FIELDS_LENGTH) rest

/-- Such an ASDU behind the control fields of an I frame. -/
def ShortPrivateBody (settings : ConnectionSettings) (length : Nat) (rest : List Octet) : Prop :=
  ∃ c1 c2 c3 c4 payload, rest = c1 :: c2 :: c3 :: c4 :: payload ∧ ApciType.apciTypeFor c1 = .I_FORMAT ∧
    ASdu.ShortPrivate settings (length - CONTROL_FIELDS_LENGTH) payload

theorem ShortPrivate.two_le (short : ShortPrivate settings s) : 2 ≤ s.length := by
  obtain ⟨length, c1, c2, c3, c4, rest, rfl, _⟩ := short
  simp only [List.length_cons]
  omega

theorem shortPrivate_cons (start length : Octet) (rest : List Octet) :
    ShortPrivate settings (start :: length :: rest) ↔ start = START_FLAG ∧
      (MIN_APDU_LENGTH ≤ length.toNat ∧ length.toNat ≤ MAX_APDU_LENGTH) ∧
      ShortPrivateBody settings length.toNat rest := by
  constructor
  · rintro ⟨_, c1, c2, c3, c4, payload, same, least, most, format, short⟩
    cases same
    exact ⟨rfl, ⟨least, most⟩, c1, c2, c3, c4, payload, rfl, format, short⟩
  · rintro ⟨rfl, ⟨least, most⟩, c1, c2, c3, c4, payload, rfl, format, short⟩
    exact ⟨length, c1, c2, c3, c4, payload, rfl, least, most, format, short⟩

private theorem vector_four (c1 c2 c3 c4 : Octet) (rest : List Octet) :
    vector endOfStream 4 (c1 :: c2 :: c3 :: c4 :: rest) = .ok (#v[c1, c2, c3, c4], rest) := by
  simp [vector]

private theorem body_checked_iff (noDecoder : settings.reservedASduTypeDecoder = none) (length : Nat)
    (rest : List Octet) :
    (∀ e, bodyExtent settings length rest = .error e → e.isIOException) ↔
      ¬ ShortPrivateBody settings length rest := by
  -- Behind the length octet only the ASDU of an I frame may throw an unchecked exception.
  by_cases enough : 4 ≤ rest.length
  · obtain ⟨c1, c2, c3, c4, payload, rfl⟩ :
        ∃ c1 c2 c3 c4 payload, rest = c1 :: c2 :: c3 :: c4 :: payload := by
      match rest, enough with
      | c1 :: c2 :: c3 :: c4 :: payload, _ => exact ⟨c1, c2, c3, c4, payload, rfl⟩
    have first : (#v[c1, c2, c3, c4] : Vector Octet 4).head = c1 := rfl
    simp only [bodyExtent, withVector_eq_error (vector_four c1 c2 c3 c4 payload), first]
    by_cases format : ApciType.apciTypeFor c1 = .I_FORMAT
    · simp only [format, if_true]
      rw [← reports_iff_of_extent (extent_aSduDecode settings _), ASdu.reports_iff noDecoder]
      refine not_congr ⟨fun short => ⟨c1, c2, c3, c4, payload, rfl, format, short⟩, ?_⟩
      rintro ⟨_, _, _, _, _, same, _, short⟩
      cases same
      exact short
    · simp only [format, if_false]
      refine iff_of_true (fun e failed => by cases failed) ?_
      rintro ⟨_, _, _, _, _, same, iFormat, _⟩
      cases same
      exact format iFormat
  · have ended : vector endOfStream 4 rest = .error endOfStream := by simp [vector, enough]
    refine iff_of_true (fun e failed => ?_) ?_
    · simp only [bodyExtent, withVector, ended] at failed
      cases failed
      rfl
    · rintro ⟨_, _, _, _, _, rfl, _⟩
      exact enough (by simp)

private theorem frame_checked_iff (noDecoder : settings.reservedASduTypeDecoder = none) (s : List Octet) :
    (∀ e, frameExtent settings s = .error e → e.isIOException) ↔ ¬ ShortPrivate settings s := by
  match s with
  | [] =>
    refine iff_of_true (fun e failed => ?_) fun short => absurd short.two_le (by simp)
    cases failed
    rfl
  | [start] =>
    refine iff_of_true (fun e failed => ?_) fun short => absurd short.two_le (by simp)
    by_cases wrong : start = START_FLAG
    · subst wrong
      cases failed
      rfl
    · simp only [frameExtent, withNext, ne_eq, wrong, not_false_eq_true, if_true] at failed
      cases failed
      rfl
  | start :: length :: rest =>
    rw [shortPrivate_cons]
    unfold frameExtent
    simp only [withNext_eq_error]
    by_cases wrong : start = START_FLAG
    · simp only [wrong, ne_eq, not_true, if_false, true_and, withNext_eq_error]
      by_cases outside : length.toNat < MIN_APDU_LENGTH ∨ MAX_APDU_LENGTH < length.toNat
      · simp only [outside, if_true]
        refine iff_of_true (fun e failed => ?_) fun short => by omega
        cases failed
        rfl
      · simp only [outside, if_false]
        rw [body_checked_iff noDecoder]
        exact not_congr ⟨fun short => ⟨⟨by omega, by omega⟩, short⟩, fun short => short.2⟩
    · simp only [ne_eq, wrong, not_false_eq_true, if_true]
      refine iff_of_true (fun e failed => ?_) fun short => short.1
      cases failed
      rfl

/-- Without a decoder for the reserved types every stream that is no frame is reported with an
`IOException`, but for I frames of a private type whose length does not count their addresses. -/
theorem decode_reports_iff (noDecoder : settings.reservedASduTypeDecoder = none) :
    Reports (decode settings) s ↔ ¬ ShortPrivate settings s := by
  rw [reports_iff_of_extent (extent_decode settings)]
  exact frame_checked_iff noDecoder s

/-- A frame that ends early, and one of an unknown type. -/
theorem decode_reports_iff_sample :
    Reports (decode {}) [0x68, 0x0e, 0x00, 0x00] ∧
      Reports (decode {}) [0x68, 0x0e, 0x00, 0x00, 0x00, 0x00, 0x00] := by
  constructor
  · refine (decode_reports_iff rfl).mpr ?_
    rintro ⟨_, _, _, _, _, _, same, _⟩
    cases same
  · refine (decode_reports_iff rfl).mpr ?_
    rintro ⟨_, _, _, _, _, _, same, _, _, _, _, _, split, high, _⟩
    cases same
    cases split
    exact absurd high (by decide)

/-- The private type 200 in a frame whose length counts no payload and no addresses. -/
theorem not_decode_reports :
    ¬ ∀ (settings : ConnectionSettings) (s : List Octet), settings.reservedASduTypeDecoder = none →
      Reports (decode settings) s := by
  intro reports
  have thrown := reports {} [0x68, 0x08, 0x00, 0x00, 0x00, 0x00, 0xc8, 0x01, 0x05, 0x00, 0x01, 0x00] rfl
  cases (show JavaException.negativeArraySizeException.isIOException = true from thrown)

end APdu

end J60870
