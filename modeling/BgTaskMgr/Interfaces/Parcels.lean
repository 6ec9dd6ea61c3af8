import BgTaskMgr.Continuous.TaskQueries
import BgTaskMgr.Efficiency.ResourceQuery
import BgTaskMgr.Lib.WireFields

/-!
# The parcel codecs

`Marshalling` and `ReadFromParcel` of the classes that cross the interface, besides those of
the task queries.  Presence flags are read by the `ReadBool` that gives `false` where nothing
is left.
-/

set_option autoImplicit false

universe u

namespace BgTaskMgr.Continuous

/-! ## Parcels with objects -/

/-- The fields of a parcel, the mark that `WriteParcelable` puts before an object of the
repository, and a want agent, which has a codec elsewhere. -/
inductive FieldKind where
  | primitive (kind : ParcelKind)
  | parcelable
  | wantAgent
  deriving DecidableEq

namespace FieldKind

abbrev string16 : FieldKind := primitive .string16
abbrev int32 : FieldKind := primitive .int32
abbrev uint32 : FieldKind := primitive .uint32
abbrev bool : FieldKind := primitive .bool
abbrev uint32Vector : FieldKind := primitive .uint32Vector

end FieldKind

@[reducible]
def FieldValue (String16 : Type) : FieldKind → Type
  | .primitive kind => ParcelValue String16 kind
  | .parcelable => Unit
  | .wantAgent => WantAgent

structure ObjectParcels (σ : Type u) (String16 : Type) where
  parcel : Wire σ (FieldValue String16)
  str8ToStr16 : String → String16
  str16ToStr8 : String16 → String
  str16ToStr8_str8ToStr16 : ∀ text, str16ToStr8 (str8ToStr16 text) = text

def listObjectParcels : ObjectParcels (List (Σ kind, FieldValue (List Char) kind)) (List Char) where
  parcel := Wire.ofList
  str8ToStr16 := String.toList
  str16ToStr8 := String.ofList
  str16ToStr8_str8ToStr16 := @String.ofList_toList

def ObjectParcels.readBool {σ : Type u} {String16 α : Type} (parcels : ObjectParcels σ String16)
    (next : Bool → Wire.Reader σ α) : Wire.Reader σ α :=
  parcels.parcel.getD .bool false next

variable {σ : Type u} {String16 α : Type} (parcels : ObjectParcels σ String16)

/-! ## Progress information -/

namespace ProgressInfo

def write (self : ProgressInfo) (next : Wire.Writer σ) : Wire.Writer σ :=
  let out := parcels.parcel
  out.put .string16 (parcels.str8ToStr16 self.title) <|
  out.put .string16 (parcels.str8ToStr16 self.fileName) <|
  out.put .int32 self.progressValue <|
  out.put .bool self.isMute
  next

def read (next : ProgressInfo → Wire.Reader σ α) : Wire.Reader σ α :=
  let input := parcels.parcel
  input.get .string16 fun u16Title =>
  input.get .string16 fun u16FileName =>
  input.get .int32 fun progressValue =>
  input.get .bool fun isMute =>
  next { title := parcels.str16ToStr8 u16Title
         fileName := parcels.str16ToStr8 u16FileName
         progressValue, isMute }

def marshalling (self : ProgressInfo) : Wire.Writer σ := self.write parcels some

def readFromParcel : Wire.Reader σ ProgressInfo := read parcels (fun info s => some (info, s))

def writeParcelable (self : ProgressInfo) (next : Wire.Writer σ) : Wire.Writer σ :=
  parcels.parcel.put .parcelable () (self.write parcels next)

/-- `ReadParcelable`, which is null without a mark. -/
def readParcelable (next : ProgressInfo → Wire.Reader σ α) : Wire.Reader σ α :=
  parcels.parcel.get .parcelable fun _ => read parcels next

end ProgressInfo

/-! ## Requests -/

structure ContinuousTaskParamData extends ContinuousTaskParam where
  requestAuthApiVersion : Int := 22
  deriving DecidableEq, Repr

namespace ContinuousTaskParamData

def sentModes (self : ContinuousTaskParamData) : Option (List Nat) :=
  if self.isBatchApi then some self.bgModeIds else none

def marshallingNewApi (self : ContinuousTaskParamData) : Wire.Writer σ :=
  let parcel := parcels.parcel
  parcel.put .uint32Vector self.bgSubModeIds <|
  parcel.put .bool self.isCombinedTaskNotification <|
  parcel.put .int32 self.combinedNotificationTaskId <|
  parcel.put .int32 self.updateTaskId <|
  parcel.put .bool self.isByRequestObject <|
  parcel.put .int32 self.appIndex <|
  parcel.put .int32 self.requestAuthApiVersion <|
  parcel.put .bool self.progressInfo.isSome <|
  Wire.putSome self.progressInfo (ProgressInfo.writeParcelable parcels)
  some

def marshalling (self : ContinuousTaskParamData) : Wire.Writer σ :=
  let parcel := parcels.parcel
  parcel.put .bool self.isNewApi <|
  parcel.put .uint32 self.bgModeId <|
  parcel.put .bool self.wantAgent.isSome <|
  Wire.putSome self.wantAgent (parcel.put .wantAgent) <|
  parcel.put .string16 (parcels.str8ToStr16 self.abilityName) <|
  parcel.put .string16 (parcels.str8ToStr16 self.appName) <|
  parcel.put .bool self.isBatchApi <|
  Wire.putSome self.sentModes (parcel.put .uint32Vector) <|
  parcel.put .int32 self.abilityId <|
  self.marshallingNewApi parcels

/-- It reads into an object that has the fields up to `abilityId_` already. -/
def readFromParcelNewApi (self : ContinuousTaskParamData) :
    Wire.Reader σ ContinuousTaskParamData :=
  let parcel := parcels.parcel
  parcel.get .uint32Vector fun bgSubModeIds =>
  parcel.get .bool fun isCombinedTaskNotification =>
  parcel.get .int32 fun combinedNotificationTaskId =>
  parcel.get .int32 fun updateTaskId =>
  parcel.get .bool fun isByRequestObject =>
  parcel.get .int32 fun appIndex =>
  parcel.get .int32 fun requestAuthApiVersion =>
  parcels.readBool fun progressValid =>
  Wire.getSome progressValid (ProgressInfo.readParcelable parcels) fun progressInfo => fun s =>
  some ({ self with
    bgSubModeIds, isCombinedTaskNotification, combinedNotificationTaskId, updateTaskId
    isByRequestObject, appIndex, requestAuthApiVersion, progressInfo }, s)

def readFromParcel : Wire.Reader σ ContinuousTaskParamData :=
  let parcel := parcels.parcel
  parcel.get .bool fun isNewApi =>
  parcel.get .uint32 fun bgModeId =>
  parcels.readBool fun valid =>
  Wire.getSome valid (parcel.get .wantAgent) fun wantAgent =>
  parcel.get .string16 fun u16AbilityName =>
  parcel.get .string16 fun u16AppName =>
  parcel.get .bool fun isBatchApi =>
  Wire.getSome isBatchApi (parcel.get .uint32Vector) fun bgModeIds =>
  parcel.get .int32 fun abilityId =>
  readFromParcelNewApi parcels
    { isNewApi, bgModeId, wantAgent, isBatchApi, abilityId
      abilityName := parcels.str16ToStr8 u16AbilityName
      appName := parcels.str16ToStr8 u16AppName
      bgModeIds := bgModeIds.getD [] }

/-- The modes of a request that is no batch do not travel. -/
def transmitted (self : ContinuousTaskParamData) : ContinuousTaskParamData :=
  { self with bgModeIds := if self.isBatchApi then self.bgModeIds else [] }

end ContinuousTaskParamData

structure ContinuousTaskRequest where
  backgroundTaskModes : List Nat := []
  backgroundTaskSubmodes : List Nat := []
  wantAgent : Option WantAgent := none
  combinedTaskNotification : Bool := false
  continuousTaskId : Int := -1
  isBuildByRequest : Bool := false
  progressInfo : Option ProgressInfo := none
  deriving DecidableEq, Repr

namespace ContinuousTaskRequest

def marshalling (self : ContinuousTaskRequest) : Wire.Writer σ :=
  let out := parcels.parcel
  out.put .uint32Vector self.backgroundTaskModes <|
  out.put .uint32Vector self.backgroundTaskSubmodes <|
  out.put .bool self.wantAgent.isSome <|
  Wire.putSome self.wantAgent (out.put .wantAgent) <|
  out.put .bool self.combinedTaskNotification <|
  out.put .int32 self.continuousTaskId <|
  out.put .bool self.isBuildByRequest <|
  out.put .bool self.progressInfo.isSome <|
  Wire.putSome self.progressInfo (ProgressInfo.writeParcelable parcels)
  some

def readFromParcel : Wire.Reader σ ContinuousTaskRequest :=
  let input := parcels.parcel
  input.get .uint32Vector fun backgroundTaskModes =>
  input.get .uint32Vector fun backgroundTaskSubmodes =>
  parcels.readBool fun valid =>
  Wire.getSome valid (input.get .wantAgent) fun wantAgent =>
  input.get .bool fun combinedTaskNotification =>
  input.get .int32 fun continuousTaskId =>
  input.get .bool fun isBuildByRequest =>
  parcels.readBool fun progressValid =>
  Wire.getSome progressValid (ProgressInfo.readParcelable parcels) fun progressInfo => fun s =>
  some ({ backgroundTaskModes, backgroundTaskSubmodes, wantAgent, combinedTaskNotification
          continuousTaskId, isBuildByRequest, progressInfo }, s)

end ContinuousTaskRequest

namespace DataTransferProgress

def marshalling (self : DataTransferProgress) : Wire.Writer σ :=
  let out := parcels.parcel
  out.put .int32 self.continuousTaskId <|
  out.put .bool self.wantAgent.isSome <|
  Wire.putSome self.wantAgent (out.put .wantAgent) <|
  out.put .bool self.progressInfo.isSome <|
  Wire.putSome self.progressInfo (ProgressInfo.writeParcelable parcels)
  some

def readFromParcel : Wire.Reader σ DataTransferProgress :=
  let input := parcels.parcel
  input.get .int32 fun continuousTaskId =>
  parcels.readBool fun valid =>
  Wire.getSome valid (input.get .wantAgent) fun wantAgent =>
  parcels.readBool fun progressValid =>
  Wire.getSome progressValid (ProgressInfo.readParcelable parcels) fun progressInfo => fun s =>
  some ({ continuousTaskId, wantAgent, progressInfo }, s)

end DataTransferProgress

/-! ## What is written and what is read -/

namespace ProgressInfo

variable {parcels} {next : Wire.Writer σ} {sent : List (Σ kind, FieldValue String16 kind)}

variable (parcels) in
def items (self : ProgressInfo) : List (Σ kind, FieldValue String16 kind) :=
  [⟨.string16, parcels.str8ToStr16 self.title⟩, ⟨.string16, parcels.str8ToStr16 self.fileName⟩,
    ⟨.int32, self.progressValue⟩, ⟨.bool, self.isMute⟩]

variable (parcels) in
def parcelableItems (self : ProgressInfo) : List (Σ kind, FieldValue String16 kind) :=
  ⟨.parcelable, ()⟩ :: self.items parcels

theorem writes_write (self : ProgressInfo) (writes : parcels.parcel.Writes next sent) :
    parcels.parcel.Writes (self.write parcels next) (self.items parcels ++ sent) := by
  iterate 4 apply Wire.Writes.put
  exact writes

theorem writes_writeParcelable (self : ProgressInfo) (writes : parcels.parcel.Writes next sent) :
    parcels.parcel.Writes (self.writeParcelable parcels next)
      (self.parcelableItems parcels ++ sent) :=
  Wire.Writes.put (self.writes_write writes)

variable {onward : ProgressInfo → Wire.Reader σ α} {result : α}

theorem reads_read (self : ProgressInfo) (reads : parcels.parcel.Reads (onward self) sent result) :
    parcels.parcel.Reads (read parcels onward) (self.items parcels ++ sent) result := by
  unfold read
  iterate 4 apply Wire.Reads.get
  simp only [parcels.str16ToStr8_str8ToStr16]
  exact reads

theorem reads_readParcelable (self : ProgressInfo)
    (reads : parcels.parcel.Reads (onward self) sent result) :
    parcels.parcel.Reads (readParcelable parcels onward) (self.parcelableItems parcels ++ sent)
      result :=
  Wire.Reads.get (self.reads_read reads)

theorem carries (self : ProgressInfo) :
    parcels.parcel.Carries (self.marshalling parcels) (readFromParcel parcels) self := by
  apply Wire.Writes.carries
  · exact self.writes_write Wire.writes_done
  · exact self.reads_read (Wire.reads_done self)

end ProgressInfo

def progressTail (progressInfo : Option ProgressInfo) : List (Σ kind, FieldValue String16 kind) :=
  ⟨.bool, progressInfo.isSome⟩ ::
    Wire.fieldItems (ProgressInfo.parcelableItems parcels) progressInfo

section ProgressTail

variable {parcels}

theorem writes_progressTail (progressInfo : Option ProgressInfo) :
    parcels.parcel.Writes
      (parcels.parcel.put .bool progressInfo.isSome <|
        Wire.putSome progressInfo (ProgressInfo.writeParcelable parcels) some)
      (progressTail parcels progressInfo) := by
  have writes : parcels.parcel.Writes
      (Wire.putSome progressInfo (ProgressInfo.writeParcelable parcels) some)
      (Wire.fieldItems (ProgressInfo.parcelableItems parcels) progressInfo ++ []) :=
    Wire.Writes.putSome ProgressInfo.writes_writeParcelable Wire.writes_done
  rw [List.append_nil] at writes
  exact Wire.Writes.put writes

theorem reads_progressTail {result : α} {onward : Option ProgressInfo → Wire.Reader σ α}
    (progressInfo : Option ProgressInfo)
    (reads : parcels.parcel.Reads (onward progressInfo) [] result) :
    parcels.parcel.Reads
      (parcels.readBool fun valid =>
        Wire.getSome valid (ProgressInfo.readParcelable parcels) onward)
      (progressTail parcels progressInfo) result := by
  have present := Wire.Reads.getSome ProgressInfo.reads_readParcelable reads
  rw [List.append_nil] at present
  exact Wire.Reads.getD present

end ProgressTail

def ContinuousTaskRequest.items (self : ContinuousTaskRequest) :
    List (Σ kind, FieldValue String16 kind) :=
  ⟨.uint32Vector, self.backgroundTaskModes⟩ :: ⟨.uint32Vector, self.backgroundTaskSubmodes⟩ ::
    ⟨.bool, self.wantAgent.isSome⟩ ::
    (Wire.fieldItems (fun agent => [⟨.wantAgent, agent⟩]) self.wantAgent ++
      ⟨.bool, self.combinedTaskNotification⟩ :: ⟨.int32, self.continuousTaskId⟩ ::
      ⟨.bool, self.isBuildByRequest⟩ :: progressTail parcels self.progressInfo)

theorem ContinuousTaskRequest.writes_marshalling (self : ContinuousTaskRequest) :
    parcels.parcel.Writes (self.marshalling parcels) (self.items parcels) := by
  iterate 3 apply Wire.Writes.put
  apply Wire.Writes.putSome_put parcels.parcel .wantAgent
  iterate 3 apply Wire.Writes.put
  exact writes_progressTail self.progressInfo

theorem ContinuousTaskRequest.carries (self : ContinuousTaskRequest) :
    parcels.parcel.Carries (self.marshalling parcels) (readFromParcel parcels) self := by
  apply (self.writes_marshalling parcels).carries
  unfold readFromParcel
  iterate 2 apply Wire.Reads.get
  apply Wire.Reads.getD
  apply Wire.Reads.getSome_get parcels.parcel .wantAgent _ rfl
  iterate 3 apply Wire.Reads.get
  exact reads_progressTail _ (Wire.reads_done self)

def DataTransferProgress.wantAgentTail (self : DataTransferProgress) :
    List (Σ kind, FieldValue String16 kind) :=
  ⟨.bool, self.wantAgent.isSome⟩ ::
    (Wire.fieldItems (fun agent => [⟨.wantAgent, agent⟩]) self.wantAgent ++
      progressTail parcels self.progressInfo)

theorem DataTransferProgress.writes_marshalling (self : DataTransferProgress) :
    parcels.parcel.Writes (self.marshalling parcels)
      (⟨.int32, self.continuousTaskId⟩ :: self.wantAgentTail parcels) := by
  iterate 2 apply Wire.Writes.put
  apply Wire.Writes.putSome_put parcels.parcel .wantAgent
  exact writes_progressTail self.progressInfo

theorem DataTransferProgress.carries (self : DataTransferProgress) :
    parcels.parcel.Carries (self.marshalling parcels) (readFromParcel parcels) self := by
  apply (self.writes_marshalling parcels).carries
  unfold readFromParcel
  apply Wire.Reads.get
  apply Wire.Reads.getD
  apply Wire.Reads.getSome_get parcels.parcel .wantAgent _ rfl
  exact reads_progressTail _ (Wire.reads_done self)

namespace ContinuousTaskParamData

def newApiItems (self : ContinuousTaskParamData) : List (Σ kind, FieldValue String16 kind) :=
  ⟨.uint32Vector, self.bgSubModeIds⟩ :: ⟨.bool, self.isCombinedTaskNotification⟩ ::
    ⟨.int32, self.combinedNotificationTaskId⟩ :: ⟨.int32, self.updateTaskId⟩ ::
    ⟨.bool, self.isByRequestObject⟩ :: ⟨.int32, self.appIndex⟩ ::
    ⟨.int32, self.requestAuthApiVersion⟩ :: progressTail parcels self.progressInfo

def items (self : ContinuousTaskParamData) : List (Σ kind, FieldValue String16 kind) :=
  ⟨.bool, self.isNewApi⟩ :: ⟨.uint32, self.bgModeId⟩ :: ⟨.bool, self.wantAgent.isSome⟩ ::
    (Wire.fieldItems (fun agent => [⟨.wantAgent, agent⟩]) self.wantAgent ++
      ⟨.string16, parcels.str8ToStr16 self.abilityName⟩ ::
      ⟨.string16, parcels.str8ToStr16 self.appName⟩ :: ⟨.bool, self.isBatchApi⟩ ::
      (Wire.fieldItems (fun modes => [⟨.uint32Vector, modes⟩]) self.sentModes ++
        ⟨.int32, self.abilityId⟩ :: self.newApiItems parcels))

theorem writes_marshalling (self : ContinuousTaskParamData) :
    parcels.parcel.Writes (self.marshalling parcels) (self.items parcels) := by
  iterate 3 apply Wire.Writes.put
  apply Wire.Writes.putSome_put parcels.parcel .wantAgent
  iterate 3 apply Wire.Writes.put
  apply Wire.Writes.putSome_put parcels.parcel .uint32Vector
  iterate 8 apply Wire.Writes.put
  exact writes_progressTail self.progressInfo

theorem isSome_sentModes (self : ContinuousTaskParamData) :
    self.isBatchApi = self.sentModes.isSome := by
  rw [sentModes]
  cases self.isBatchApi with
  | false => rfl
  | true => rfl

theorem getD_sentModes (self : ContinuousTaskParamData) :
    self.sentModes.getD [] = self.transmitted.bgModeIds := by
  rw [sentModes, transmitted]
  cases self.isBatchApi with
  | false => rfl
  | true => rfl

/-- What is read of a request: the modes of one that is no batch are not there. -/
theorem carries (self : ContinuousTaskParamData) :
    parcels.parcel.Carries (self.marshalling parcels) (readFromParcel parcels)
      self.transmitted := by
  apply (self.writes_marshalling parcels).carries
  unfold readFromParcel
  iterate 2 apply Wire.Reads.get
  apply Wire.Reads.getD
  apply Wire.Reads.getSome_get parcels.parcel .wantAgent _ rfl
  iterate 3 apply Wire.Reads.get
  apply Wire.Reads.getSome_get parcels.parcel .uint32Vector _ self.isSome_sentModes
  apply Wire.Reads.get
  simp only [parcels.str16ToStr8_str8ToStr16, self.getD_sentModes]
  unfold readFromParcelNewApi
  iterate 7 apply Wire.Reads.get
  exact reads_progressTail _ (Wire.reads_done self.transmitted)

end ContinuousTaskParamData

/-! ## Classes without objects -/

structure ContinuousTaskParamForInnerData extends ContinuousTaskParamForInner where
  tokenId : Nat := 0
  deriving DecidableEq, Repr

namespace ContinuousTaskParamForInnerData

variable (plain : Parcels σ String16)

def marshalling (self : ContinuousTaskParamForInnerData) : Wire.Writer σ :=
  let parcel := plain.parcel
  parcel.put .bool self.isStart <|
  parcel.put .uint32 self.bgModeId <|
  parcel.put .int32 self.uid <|
  parcel.put .int32 self.abilityId <|
  parcel.put .uint64 self.tokenId <|
  parcel.put .int32 self.pid
  some

def readFromParcel : Wire.Reader σ ContinuousTaskParamForInnerData :=
  let parcel := plain.parcel
  parcel.get .bool fun isStart =>
  parcel.get .uint32 fun bgModeId =>
  parcel.get .int32 fun uid =>
  parcel.get .int32 fun abilityId =>
  parcel.get .uint64 fun tokenId =>
  parcel.get .int32 fun pid => fun s =>
  some ({ isStart, bgModeId, uid, abilityId, tokenId, pid }, s)

theorem carries (self : ContinuousTaskParamForInnerData) :
    plain.parcel.Carries (self.marshalling plain) (readFromParcel plain) self := by
  apply Wire.Writes.carries
  · iterate 6 apply Wire.Writes.put
    exact Wire.writes_done
  · unfold readFromParcel
    iterate 6 apply Wire.Reads.get
    exact Wire.reads_done self

end ContinuousTaskParamForInnerData

end BgTaskMgr.Continuous

open BgTaskMgr.Continuous (Parcels)

namespace BgTaskMgr.Efficiency

variable {σ : Type u} {String16 : Type} (parcels : Parcels σ String16)

namespace OwnedResourceInfo

def marshalling (self : OwnedResourceInfo) : Wire.Writer σ :=
  let out := parcels.parcel
  out.put .uint32 self.resourceNumber.toNat <|
  out.put .bool self.isApply <|
  out.put .uint32 self.timeOut <|
  out.put .string self.reason <|
  out.put .bool self.isPersist <|
  out.put .bool self.isProcess <|
  out.put .int32 self.uid <|
  out.put .int32 self.pid <|
  out.put .int32 self.cpuLevel
  some

def readFromParcel : Wire.Reader σ OwnedResourceInfo :=
  let input := parcels.parcel
  input.get .uint32 fun resourceNumber =>
  input.get .bool fun isApply =>
  input.get .uint32 fun timeOut =>
  input.get .string fun reason =>
  input.get .bool fun isPersist =>
  input.get .bool fun isProcess =>
  input.get .int32 fun uid =>
  input.get .int32 fun pid =>
  input.get .int32 fun cpuLevel => fun s =>
  some ({ resourceNumber := BitVec.ofNat 32 resourceNumber
          isApply, timeOut, reason, isPersist, isProcess, uid, pid, cpuLevel }, s)

theorem carries (self : OwnedResourceInfo) :
    parcels.parcel.Carries (self.marshalling parcels) (readFromParcel parcels) self := by
  apply Wire.Writes.carries
  · iterate 9 apply Wire.Writes.put
    exact Wire.writes_done
  · unfold readFromParcel
    iterate 9 apply Wire.Reads.get
    simp only [BitVec.ofNat_toNat, BitVec.setWidth_eq]
    exact Wire.reads_done self

end OwnedResourceInfo

namespace ResourceCallbackInfo

def marshalling (self : ResourceCallbackInfo) : Wire.Writer σ :=
  let out := parcels.parcel
  out.put .int32 self.uid <|
  out.put .int32 self.pid <|
  out.put .uint32 self.resourceNumber.toNat <|
  out.put .string self.bundleName <|
  out.put .int32 self.cpuLevel
  some

def readFromParcel : Wire.Reader σ ResourceCallbackInfo :=
  let input := parcels.parcel
  input.get .int32 fun uid =>
  input.get .int32 fun pid =>
  input.get .uint32 fun resourceNumber =>
  input.get .string fun bundleName =>
  input.get .int32 fun cpuLevel => fun s =>
  some ({ uid, pid, bundleName, cpuLevel
          resourceNumber := BitVec.ofNat 32 resourceNumber }, s)

theorem carries (self : ResourceCallbackInfo) :
    parcels.parcel.Carries (self.marshalling parcels) (readFromParcel parcels) self := by
  apply Wire.Writes.carries
  · iterate 5 apply Wire.Writes.put
    exact Wire.writes_done
  · unfold readFromParcel
    iterate 5 apply Wire.Reads.get
    simp only [BitVec.ofNat_toNat, BitVec.setWidth_eq]
    exact Wire.reads_done self

end ResourceCallbackInfo

end BgTaskMgr.Efficiency

open BgTaskMgr.Continuous BgTaskMgr.Efficiency

namespace BgTaskMgr

/-- `Marshalling` fails only with the parcel, and what it has put there `ReadFromParcel` takes from
it, whatever follows. -/
theorem parcel_codecs_lossless {σ τ : Type u} {String16 : Type} (parcels : Parcels σ String16)
    (objects : ObjectParcels τ String16) :
    (∀ self : ContinuousTaskParamData,
      objects.parcel.Carries (self.marshalling objects)
        (ContinuousTaskParamData.readFromParcel objects) self.transmitted) ∧
    (∀ self : ContinuousTaskParamForInnerData,
      parcels.parcel.Carries (self.marshalling parcels)
        (ContinuousTaskParamForInnerData.readFromParcel parcels) self) ∧
    (∀ self : ContinuousTaskRequest,
      objects.parcel.Carries (self.marshalling objects)
        (ContinuousTaskRequest.readFromParcel objects) self) ∧
    (∀ self : DataTransferProgress,
      objects.parcel.Carries (self.marshalling objects)
        (DataTransferProgress.readFromParcel objects) self) ∧
    (∀ self : ProgressInfo,
      objects.parcel.Carries (self.marshalling objects)
        (ProgressInfo.readFromParcel objects) self) ∧
    (∀ self : ContinuousTaskCallbackData,
      parcels.parcel.Carries (self.marshalling parcels)
        (ContinuousTaskCallbackData.readFromParcel parcels) self) ∧
    (∀ self : ContinuousTaskInfo,
      parcels.parcel.Carries (self.marshalling parcels)
        (ContinuousTaskInfo.readFromParcel parcels) self) ∧
    (∀ self : OwnedResourceInfo,
      parcels.parcel.Carries (self.marshalling parcels)
        (OwnedResourceInfo.readFromParcel parcels) self) ∧
    (∀ self : ResourceCallbackInfo,
      parcels.parcel.Carries (self.marshalling parcels)
        (ResourceCallbackInfo.readFromParcel parcels) self) :=
  ⟨ContinuousTaskParamData.carries objects, ContinuousTaskParamForInnerData.carries parcels,
    ContinuousTaskRequest.carries objects, DataTransferProgress.carries objects,
    ProgressInfo.carries, ContinuousTaskCallbackData.carries parcels,
    ContinuousTaskInfo.carries parcels, OwnedResourceInfo.carries parcels,
    ResourceCallbackInfo.carries parcels⟩

/-- A batch with a want agent and progress information, in front of another flag. -/
theorem parcel_codecs_lossless_batch :
    let batch : ContinuousTaskParamData :=
      { isNewApi := true, abilityName := "EntryAbility", appName := "app", isBatchApi := true
        bgModeIds := [1, 5], abilityId := 7, wantAgent := some ⟨none⟩
        progressInfo := some ⟨"Download", "film.mp4", 40, true⟩ }
    ∃ after, batch.marshalling listObjectParcels [] = some after ∧
      ContinuousTaskParamData.readFromParcel listObjectParcels (after ++ [⟨.bool, true⟩]) =
        some (batch, [⟨.bool, true⟩]) := by
  intro batch
  have carries := (parcel_codecs_lossless listParcels listObjectParcels).1 batch
  obtain ⟨after, written⟩ := carries.completes Wire.accepts_ofList []
  obtain ⟨left, read, rest⟩ := carries.delivers written rfl rfl
  refine ⟨after, written, read.trans ?_⟩
  have left_eq : left = [⟨.bool, true⟩] := rest
  rw [left_eq]
  rfl

end BgTaskMgr
