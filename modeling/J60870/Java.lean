import J60870.Lib.LittleEndian
import J60870.Lib.Contract
import J60870.Lib.Buffer

namespace J60870

open Lib

/-- A Java `byte`. -/
abbrev Octet := BitVec 8

/-- A Java `int`. -/
abbrev JInt := BitVec 32

/-- The cast `(byte) v`. -/
def toByte (v : JInt) : Octet := v.setWidth 8

def toInt (b : Octet) : JInt := b.setWidth 32

def hasMask (b mask : JInt) : Bool := b &&& mask == mask

inductive JavaException
  | iOException (message : String)
  | eOFException (message : Option String)
  | interruptedIOException (message : String)
  | illegalArgumentException (message : String)
  | arrayIndexOutOfBoundsException
  | indexOutOfBoundsException
  | bufferOverflowException
  | negativeArraySizeException
  | nullPointerException
  deriving DecidableEq, Repr

/-- The checked exceptions: `IOException` and its subclasses. -/
def JavaException.isIOException : JavaException → Bool
  | .iOException _ | .eOFException _ | .interruptedIOException _ => true
  | _ => false

/-- What a `DataInputStream` throws at the end of the stream. -/
def endOfStream : JavaException := .eOFException none

/-- Readers of the octets a peer sent. -/
abbrev InputStream (α : Type) := Reader JavaException Octet α

def readByte : InputStream Octet := Reader.next endOfStream

def readUnsignedByte : InputStream JInt := return toInt (← readByte)

/-- `readFully` into a new array of length `n`. -/
def readFully (n : Nat) : InputStream (List Octet) := Reader.word endOfStream n

/-- The loops `v |= readUnsignedByte() << (8 * i)` of the source, run `n` times
from octet position `i`. -/
def readLittleEndian : (n i : Nat) → (v : JInt) → InputStream JInt
  | 0, _, v => return v
  | n + 1, i, v => do readLittleEndian n (i + 1) (v ||| ((← readUnsignedByte) <<< (8 * i)))

/-- The low `n` octets of an `int`, least significant first. -/
def readOctets (n : Nat) : InputStream JInt := readLittleEndian n 0 0#32

theorem toByte_toInt (b : Octet) : toByte (toInt b) = b := by
  simp [toByte, toInt]

theorem toByte_sshiftRight (v : JInt) (k : Nat) (inside : k < 4) :
    toByte (v.sshiftRight (8 * k)) = octet v k :=
  setWidth_sshiftRight v k (by omega)

theorem yields_readUnsignedByte (b : Octet) : Reader.Yields readUnsignedByte [b] (toInt b) :=
  (Reader.Yields.next endOfStream b).bind (Reader.Yields.pure (toInt b))

theorem yields_readLittleEndian (bs : List Octet) (i : Nat) (v : JInt) :
    Reader.Yields (readLittleEndian bs.length i v) bs (gather v i bs) := by
  induction bs generalizing i v with
  | nil => exact Reader.Yields.pure v
  | cons b bs ih => exact (yields_readUnsignedByte b).bind (ih (i + 1) _)

theorem yields_readOctets_low (v : JInt) (n : Nat) :
    Reader.Yields (readOctets n) (octets v n) (low v (8 * n)) := by
  have read := yields_readLittleEndian (octets v n) 0 0#32
  rwa [octets_length, gather_octets_low] at read

theorem yields_readOctets (v : JInt) (n : Nat) (small : v.toNat < 2 ^ (8 * n)) :
    Reader.Yields (readOctets n) (octets v n) v := by
  have read := yields_readOctets_low v n
  rwa [low_of_lt v _ small] at read

theorem extent_readUnsignedByte : Reader.Extent readUnsignedByte (Reader.fixed endOfStream 1) :=
  (Reader.Extent.next endOfStream).map toInt

theorem extent_readLittleEndian (n i : Nat) (v : JInt) :
    Reader.Extent (readLittleEndian n i v) (Reader.fixed endOfStream n) := by
  induction n generalizing i v with
  | zero => exact Reader.Extent.pureFixed endOfStream v
  | succ n ih =>
    have loop := extent_readUnsignedByte.bindFixed fun b => ih (i + 1) (v ||| (b <<< (8 * i)))
    rwa [Nat.add_comm 1 n] at loop

theorem extent_readOctets (n : Nat) :
    Reader.Extent (readOctets n) (Reader.fixed endOfStream n) :=
  extent_readLittleEndian n 0 0#32

theorem ensures_readUnsignedByte {R : List Octet → JInt → Prop} {E : JavaException → Prop}
    (ended : E endOfStream) (related : ∀ b, R [b] (toInt b)) : Reader.Ensures readUnsignedByte R E :=
  Reader.Ensures.cons ended fun b => Reader.Ensures.pure (related b)

theorem ensures_bind_readUnsignedByte {β : Type} {k : JInt → InputStream β}
    {S : List Octet → β → Prop} {E : JavaException → Prop} (ended : E endOfStream)
    (second : ∀ b, Reader.Ensures (k (toInt b)) (fun cs c => S (b :: cs) c) E) :
    Reader.Ensures (readUnsignedByte >>= k) S E := by
  refine (ensures_readUnsignedByte (R := fun bs v => ∃ b, bs = [b] ∧ v = toInt b) ended
    fun b => ⟨b, rfl, rfl⟩).bind ?_
  rintro _ _ ⟨b, rfl, rfl⟩
  exact second b

theorem ensures_behind_octet {β : Type} {k : JInt → InputStream β} {R : List Octet → β → Prop}
    {E : JavaException → Prop} (b : Octet) (behind : Reader.Ensures (k (toInt b)) R E) :
    Reader.Ensures (fun s => (readUnsignedByte >>= k) (b :: s)) R E := behind

theorem ensures_readLittleEndian {E : JavaException → Prop} (ended : E endOfStream) (n i : Nat)
    (v : JInt) : Reader.Ensures (readLittleEndian n i v)
      (fun bs value => bs.length = n ∧ value = gather v i bs) E := by
  induction n generalizing i v with
  | zero => exact Reader.Ensures.pure ⟨rfl, rfl⟩
  | succ n ih =>
    refine ensures_bind_readUnsignedByte ended fun b => ?_
    refine (ih (i + 1) _).mono ?_ fun _ raised => raised
    rintro bs value ⟨size, rfl⟩
    exact ⟨congrArg (· + 1) size, rfl⟩

theorem ensures_readOctets {E : JavaException → Prop} (ended : E endOfStream) (n : Nat)
    (inside : n ≤ 4) : Reader.Ensures (readOctets n)
      (fun bs value => octets value n = bs ∧ value.toNat < 2 ^ (8 * n)) E := by
  refine (ensures_readLittleEndian ended n 0 0#32).mono ?_ fun _ raised => raised
  rintro bs value ⟨rfl, rfl⟩
  have fits := gather_lt (0#32) 0 bs (by simp)
  rw [Nat.zero_add] at fits
  exact ⟨octets_gather bs (by omega), fits⟩

end J60870
