namespace J60870

inductive CauseOfTransmission
  | periodic | backgroundScan | spontaneous | initialized | request | activation | activationCon
  | deactivation | deactivationCon | activationTermination | returnInfoRemote | returnInfoLocal
  | fileTransfer | interrogatedByStation | interrogatedByGroup1 | interrogatedByGroup2
  | interrogatedByGroup3 | interrogatedByGroup4 | interrogatedByGroup5 | interrogatedByGroup6
  | interrogatedByGroup7 | interrogatedByGroup8 | interrogatedByGroup9 | interrogatedByGroup10
  | interrogatedByGroup11 | interrogatedByGroup12 | interrogatedByGroup13 | interrogatedByGroup14
  | interrogatedByGroup15 | interrogatedByGroup16 | requestedByGeneralCounter
  | requestedByGroup1Counter | requestedByGroup2Counter | requestedByGroup3Counter
  | requestedByGroup4Counter | unknownTypeId | unknownCauseOfTransmission
  | unknownCommonAddressOfAsdu | unknownInformationObjectAddress
  deriving DecidableEq, Repr

namespace CauseOfTransmission

def getId : CauseOfTransmission → Nat
  | .periodic => 1 | .backgroundScan => 2 | .spontaneous => 3 | .initialized => 4 | .request => 5
  | .activation => 6 | .activationCon => 7 | .deactivation => 8 | .deactivationCon => 9
  | .activationTermination => 10 | .returnInfoRemote => 11 | .returnInfoLocal => 12
  | .fileTransfer => 13 | .interrogatedByStation => 20 | .interrogatedByGroup1 => 21
  | .interrogatedByGroup2 => 22 | .interrogatedByGroup3 => 23 | .interrogatedByGroup4 => 24
  | .interrogatedByGroup5 => 25 | .interrogatedByGroup6 => 26 | .interrogatedByGroup7 => 27
  | .interrogatedByGroup8 => 28 | .interrogatedByGroup9 => 29 | .interrogatedByGroup10 => 30
  | .interrogatedByGroup11 => 31 | .interrogatedByGroup12 => 32 | .interrogatedByGroup13 => 33
  | .interrogatedByGroup14 => 34 | .interrogatedByGroup15 => 35 | .interrogatedByGroup16 => 36
  | .requestedByGeneralCounter => 37 | .requestedByGroup1Counter => 38
  | .requestedByGroup2Counter => 39 | .requestedByGroup3Counter => 40
  | .requestedByGroup4Counter => 41 | .unknownTypeId => 44 | .unknownCauseOfTransmission => 45
  | .unknownCommonAddressOfAsdu => 46 | .unknownInformationObjectAddress => 47

def values : List CauseOfTransmission :=
  [.periodic, .backgroundScan, .spontaneous, .initialized, .request, .activation, .activationCon,
   .deactivation, .deactivationCon, .activationTermination, .returnInfoRemote, .returnInfoLocal,
   .fileTransfer, .interrogatedByStation, .interrogatedByGroup1, .interrogatedByGroup2,
   .interrogatedByGroup3, .interrogatedByGroup4, .interrogatedByGroup5, .interrogatedByGroup6,
   .interrogatedByGroup7, .interrogatedByGroup8, .interrogatedByGroup9, .interrogatedByGroup10,
   .interrogatedByGroup11, .interrogatedByGroup12, .interrogatedByGroup13, .interrogatedByGroup14,
   .interrogatedByGroup15, .interrogatedByGroup16, .requestedByGeneralCounter,
   .requestedByGroup1Counter, .requestedByGroup2Counter, .requestedByGroup3Counter,
   .requestedByGroup4Counter, .unknownTypeId, .unknownCauseOfTransmission,
   .unknownCommonAddressOfAsdu, .unknownInformationObjectAddress]

/-- The cause with the given identification, `none` for the undefined ones. -/
def causeFor (id : Nat) : Option CauseOfTransmission :=
  values.find? fun cause => cause.getId == id

theorem causeFor_getId (cause : CauseOfTransmission) : causeFor cause.getId = some cause := by
  cases cause <;> rfl

theorem getId_of_causeFor {id : Nat} {cause : CauseOfTransmission} (found : causeFor id = some cause) :
    cause.getId = id :=
  beq_iff_eq.mp (List.find?_some (p := fun cause : CauseOfTransmission => cause.getId == id) found)

theorem getId_lt (cause : CauseOfTransmission) : cause.getId < 64 := by
  cases cause <;> decide

end CauseOfTransmission

end J60870
