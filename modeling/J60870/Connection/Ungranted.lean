import J60870.Connection.Confirmations
import J60870.Connection.Unwrapped

namespace J60870

open Lib Method

def APdu.transfers (aPdu : APdu) : Bool := aPdu.apciType = .I_FORMAT || aPdu.apciType = .STARTDT_CON

namespace Connection

variable {settings : ConnectionSettings} {server : Bool} {c d : Connection}

/-- Data transfer is stopped, and neither an I frame nor the confirmation of a start was written. -/
structure Halted (c : Connection) : Prop where
  stopped : c.stopped = true
  transfers : c.frames.filter APdu.transfers = []

def standing (c : Connection) : Bool × List APdu := (c.stopped, c.frames.filter APdu.transfers)

/-- No start is received, and no call of `startDataTransfer` gets past its latch. -/
def NoStart (c : Connection) : Action → Prop
  | .receive aPdu => aPdu.apciType ≠ .STARTDT_ACT
  | .proceed thread => (c.calls thread).returnsFrom ≠ some .start
  | _ => True

namespace Halted

theorem congr (halted : Halted c) (same : d.standing = c.standing) : Halted d := by
  simp only [standing, Prod.mk.injEq] at same
  exact ⟨same.1.trans halted.stopped, same.2.trans halted.transfers⟩

private theorem kept {method : Body Unit} (halted : Halted c) (keeps : Keeps standing method) :
    Always Halted c method :=
  keeps.post fun _ same => halted.congr same

@[simp] private theorem transfers_sFormat (receiveSeqNum : Nat) :
    (APdu.sFormat receiveSeqNum).transfers = false := rfl

@[simp] private theorem transfers_unnumbered (apciType : ApciType) :
    (unnumbered apciType).transfers = (apciType = .I_FORMAT || apciType = .STARTDT_CON) := rfl

private theorem keeps_handleReceiveSequenceNumber (receiveSeqNumber : Nat) :
    Keeps standing (handleReceiveSequenceNumber settings receiveSeqNumber) := fun c => by
  simp [handleReceiveSequenceNumber, standing, frames]

private theorem keeps_handleIFrame (aPdu : APdu) : Keeps standing (handleIFrame settings aPdu) := by
  refine .bind (fun c => ?_) fun _ => .bind (keeps_handleReceiveSequenceNumber _) fun _ =>
    .bind (fun c => ?_) fun _ c => ?_
  · simp [post_updateReceiveSeqNum, standing, frames]
  · simp [standing, frames]
  · simp [post_acknowledgeReceived, standing, frames]

private theorem keeps_confirmStop : Keeps standing (sendSFormatIfUnconfirmedAPdu settings) := fun c => by
  simp [post_sendSFormatIfUnconfirmedAPdu, standing, frames]

private theorem keeps_sendStopDtCon : Keeps standing sendStopDtCon := fun c => by
  simp [sendStopDtCon, standing, frames]

private theorem keeps_executeManually (id : TimerId) : Keeps standing (executeManually settings id) :=
  fun c => by
  cases id <;> simp [post_executeManually, execute, sendStopDtCon, standing, frames]

private theorem always_handleStopDtAct (halted : Halted c) : Always Halted c (handleStopDtAct settings) := by
  have requested : Halted c.stopRequested := ⟨rfl, halted.transfers⟩
  exact (handleStopDtAct_of_keeps rfl keeps_confirmStop (fun d => rfl) keeps_sendStopDtCon).mono
    (fun _ _ same => requested.congr same) fun _ _ same => requested.congr same

private theorem always_dispatch (halted : Halted c) {aPdu : APdu} (noStart : aPdu.apciType ≠ .STARTDT_ACT) :
    Always Halted c (dispatch settings server aPdu) := by
  apply Dispatches.post
  constructor
  case refused => exact fun _ => halted
  case handleIFrame => exact fun _ => halted.kept (keeps_handleIFrame aPdu)
  case handleSFormat =>
    intro _
    refine (halted.kept (keeps_handleReceiveSequenceNumber _)).mono (fun _ d halted => ?_)
      fun _ _ halted => halted
    exact ⟨fun _ => halted, fun object _ => halted.kept (keeps_executeManually _)⟩
  case handleStartDtAct => exact fun start => absurd start noStart
  case handleStopDtAct => exact fun _ => halted.always_handleStopDtAct
  case sendTestFrameCon => exact halted.kept fun c => by simp [sendTestFrameCon, standing, frames]
  case cancelTestCon => exact fun _ => halted.congr rfl
  case countDown => exact fun _ => halted.congr rfl

theorem preserves : Preserves settings server NoStart Halted where
  progress _ _ halted := halted.congr rfl
  callEnds _ _ halted _ := halted.congr rfl
  tick _ _ halted := halted.congr rfl
  send _ _ halted _ _ := by
    rw [Always, Connection.send, post_bind, post_prepareSend]
    exact ⟨fun _ => halted, fun _ => ⟨fun _ => halted, fun started =>
      absurd (halted.stopped.symm.trans started) Bool.false_ne_true.symm⟩⟩
  receive _ _ halted noStart _ :=
    (halted.always_dispatch noStart).mono (fun _ _ halted => halted.congr rfl)
      fun _ _ halted => halted.congr rfl
  readFailure _ _ halted _ := halted.congr rfl
  endReader _ halted _ _ := halted.kept fun c => by
    cases stopped : c.stopped <;> simp [post_endReader, standing, frames, stopped]
  fire c id halted _ := by
    have dequeued : Halted (c.dequeued id) := halted.congr rfl
    rw [Always, post_fire]
    exact dequeued.kept (keeps_executeManually id)
  runTask _ _ halted _ _ := halted.kept fun c => by simp [standing, frames]
  setConnectionListener _ _ halted _ := halted.congr rfl
  close _ halted := halted.kept fun c => by simp [standing, frames]
  writeStartDtAct _ halted := halted.kept fun c => by
    simp [writeStartDtAct, newStartDtConSignal, standing, frames]
  register _ _ _ halted noStart call := absurd (by rw [call]; rfl) noStart
  beginStop _ _ halted _ := by
    simp only [Always, beginStop, post_bind, post_modify, post_setStopped]
    exact ⟨rfl, halted.transfers⟩
  confirm _ _ halted _ _ := halted.kept keeps_confirmStop
  cancelT2 _ _ halted _ _ := (post_cancelIfPlanned _).mpr (halted.congr rfl)
  writeStopDtAct _ halted := halted.kept fun c => by
    simp [writeStopDtAct, newStopDtConSignal, standing, frames]
  finishStop _ _ halted _ _ := halted.congr rfl

end Halted

/-- The connection is halted, and no call of `startDataTransfer` has been confirmed. -/
structure Ungranted (c : Connection) : Prop where
  halted : Halted c
  unconfirmed : ∃ confirmed, c.handshakes.Sound confirmed ∧ ∀ thread, confirmed .start thread = false

namespace Ungranted

theorem started (ioFails : Nat → Bool) (now : Nat) : Ungranted (started settings ioFails now) :=
  ⟨⟨rfl, rfl⟩, _, sound_started ioFails now, fun _ => rfl⟩

/-- It stays so until a start or the confirmation of one is received. -/
theorem step {action : Action} (ungranted : Ungranted c) (meets : c.Uninterrupted action)
    (neither : ∀ aPdu, action = .receive aPdu →
      aPdu.apciType ≠ .STARTDT_ACT ∧ aPdu.apciType ≠ .STARTDT_CON)
    (taken : Step settings server c action d) : Ungranted d := by
  obtain ⟨halted, confirmed, sound, unconfirmed⟩ := ungranted
  constructor
  · refine Halted.preserves.step halted ?_ taken
    cases action with
    | receive aPdu => exact (neither aPdu rfl).1
    | proceed thread =>
      intro returns
      have granted : confirmed .start thread = true := sound.confirmed_of_returns returns
      rw [unconfirmed thread] at granted
      cases granted
    | _ => trivial
  · refine ⟨_, sound_step sound meets taken, fun thread => ?_⟩
    have silent : action.confirms ≠ some .start := by
      cases action with
      | receive aPdu =>
        have other := (neither aPdu rfl).2
        cases type : aPdu.apciType <;> simp_all [Action.confirms]
      | _ => simp [Action.confirms]
    simp [confirmation, Handshakes.noted, silent, unconfirmed]

end Ungranted

end Connection

end J60870
