import BgTaskMgr.Continuous.Authorisation
import BgTaskMgr.Interfaces.Truncation
import BgTaskMgr.Transient.DecisionMaker

/-!
# Parcels of plain fields

The classes that travel without objects: every field is checked as it is read, but for the
package name of a transient task.  A name that is missing reads as the empty one, and the uid
behind it is then missing as well, so none of these messages can be cut unnoticed.
-/

set_option autoImplicit false

universe u

open BgTaskMgr.Continuous (Parcels ParcelValue)

namespace BgTaskMgr.Transient

variable {σ : Type u} {String16 : Type} (parcels : Parcels σ String16)

structure DelaySuspendInfo where
  requestId : Int := -1
  actualDelayTime : Int := 0
  deriving DecidableEq, Repr

namespace DelaySuspendInfo

def marshalling (self : DelaySuspendInfo) : Wire.Writer σ :=
  let out := parcels.parcel
  out.put .int32 self.requestId <|
  out.put .int32 self.actualDelayTime
  some

def readFromParcel : Wire.Reader σ DelaySuspendInfo :=
  let input := parcels.parcel
  input.get .int32 fun requestId =>
  input.get .int32 fun actualDelayTime => fun s =>
  some ({ requestId, actualDelayTime }, s)

variable {parcels}

theorem writes_marshalling (self : DelaySuspendInfo) :
    parcels.parcel.Writes (self.marshalling parcels)
      [⟨.int32, self.requestId⟩, ⟨.int32, self.actualDelayTime⟩] := by
  iterate 2 apply Wire.Writes.put
  exact Wire.writes_done

theorem carries (self : DelaySuspendInfo) :
    parcels.parcel.Carries (self.marshalling parcels) (readFromParcel parcels) self := by
  apply self.writes_marshalling.carries
  unfold readFromParcel
  iterate 2 apply Wire.Reads.get
  exact Wire.reads_done self

theorem rejectsCuts (exhausts : parcels.parcel.Exhausts) (self : DelaySuspendInfo) :
    parcels.parcel.RejectsCuts (self.marshalling parcels) (readFromParcel parcels) [] := by
  apply self.writes_marshalling.rejectsCuts
  unfold readFromParcel
  iterate 2 apply Wire.Cuts.get exhausts
  exact Wire.cuts_done _

end DelaySuspendInfo

namespace TransientTaskAppInfo

def marshalling (self : TransientTaskAppInfo) : Wire.Writer σ :=
  let out := parcels.parcel
  out.put .string16 (parcels.str8ToStr16 self.packageName) <|
  out.put .int32 self.uid <|
  out.put .int32 self.pid
  some

/-- `ReadString16` is not checked: nothing there is an empty name. -/
def readFromParcel : Wire.Reader σ TransientTaskAppInfo :=
  let input := parcels.parcel
  input.getD .string16 (parcels.str8ToStr16 "") fun package =>
  input.get .int32 fun uid =>
  input.get .int32 fun pid => fun s =>
  some ({ packageName := parcels.str16ToStr8 package, uid, pid }, s)

variable {parcels}

theorem writes_marshalling (self : TransientTaskAppInfo) :
    parcels.parcel.Writes (self.marshalling parcels)
      [⟨.string16, parcels.str8ToStr16 self.packageName⟩, ⟨.int32, self.uid⟩,
        ⟨.int32, self.pid⟩] := by
  iterate 3 apply Wire.Writes.put
  exact Wire.writes_done

theorem carries (self : TransientTaskAppInfo) :
    parcels.parcel.Carries (self.marshalling parcels) (readFromParcel parcels) self := by
  apply self.writes_marshalling.carries
  unfold readFromParcel
  apply Wire.Reads.getD
  iterate 2 apply Wire.Reads.get
  simp only [parcels.str16ToStr8_str8ToStr16]
  exact Wire.reads_done self

theorem rejectsCuts (exhausts : parcels.parcel.Exhausts) (self : TransientTaskAppInfo) :
    parcels.parcel.RejectsCuts (self.marshalling parcels) (readFromParcel parcels) [] := by
  apply self.writes_marshalling.rejectsCuts
  unfold readFromParcel
  apply Wire.Cuts.getD exhausts
  · iterate 2 apply Wire.Cuts.get exhausts
    exact Wire.cuts_done _
  · intro s empty
    simp [Wire.get, exhausts empty]

end TransientTaskAppInfo

end BgTaskMgr.Transient

namespace BgTaskMgr.Continuous

variable {σ : Type u} {String16 : Type} (parcels : Parcels σ String16)

namespace BackgroundTaskStateInfo

def marshalling (self : BackgroundTaskStateInfo) : Wire.Writer σ :=
  let out := parcels.parcel
  out.put .int32 self.userId <|
  out.put .string self.bundleName <|
  out.put .int32 self.appIndex <|
  out.put .int32 self.userAuthResult
  some

def readFromParcel : Wire.Reader σ BackgroundTaskStateInfo :=
  let input := parcels.parcel
  input.get .int32 fun userId =>
  input.get .string fun bundleName =>
  input.get .int32 fun appIndex =>
  input.get .int32 fun userAuthResult => fun s =>
  some ({ userId, bundleName, appIndex, userAuthResult }, s)

variable {parcels}

theorem writes_marshalling (self : BackgroundTaskStateInfo) :
    parcels.parcel.Writes (self.marshalling parcels)
      [⟨.int32, self.userId⟩, ⟨.string, self.bundleName⟩, ⟨.int32, self.appIndex⟩,
        ⟨.int32, self.userAuthResult⟩] := by
  iterate 4 apply Wire.Writes.put
  exact Wire.writes_done

theorem carries (self : BackgroundTaskStateInfo) :
    parcels.parcel.Carries (self.marshalling parcels) (readFromParcel parcels) self := by
  apply self.writes_marshalling.carries
  unfold readFromParcel
  iterate 4 apply Wire.Reads.get
  exact Wire.reads_done self

theorem rejectsCuts (exhausts : parcels.parcel.Exhausts) (self : BackgroundTaskStateInfo) :
    parcels.parcel.RejectsCuts (self.marshalling parcels) (readFromParcel parcels) [] := by
  apply self.writes_marshalling.rejectsCuts
  unfold readFromParcel
  iterate 4 apply Wire.Cuts.get exhausts
  exact Wire.cuts_done _

end BackgroundTaskStateInfo

theorem ContinuousTaskParamForInnerData.rejectsCuts {parcels : Parcels σ String16}
    (exhausts : parcels.parcel.Exhausts) (self : ContinuousTaskParamForInnerData) :
    parcels.parcel.RejectsCuts (self.marshalling parcels) (readFromParcel parcels) [] := by
  apply Wire.Writes.rejectsCuts
  · iterate 6 apply Wire.Writes.put
    exact Wire.writes_done
  · unfold readFromParcel
    iterate 6 apply Wire.Cuts.get exhausts
    exact Wire.cuts_done _

end BgTaskMgr.Continuous

namespace BgTaskMgr.Efficiency

variable {σ : Type u} {String16 : Type} {parcels : Parcels σ String16}
  (exhausts : parcels.parcel.Exhausts)

include exhausts

theorem OwnedResourceInfo.rejectsCuts (self : OwnedResourceInfo) :
    parcels.parcel.RejectsCuts (self.marshalling parcels) (readFromParcel parcels) [] := by
  apply Wire.Writes.rejectsCuts
  · iterate 9 apply Wire.Writes.put
    exact Wire.writes_done
  · unfold readFromParcel
    iterate 9 apply Wire.Cuts.get exhausts
    exact Wire.cuts_done _

theorem ResourceCallbackInfo.rejectsCuts (self : ResourceCallbackInfo) :
    parcels.parcel.RejectsCuts (self.marshalling parcels) (readFromParcel parcels) [] := by
  apply Wire.Writes.rejectsCuts
  · iterate 5 apply Wire.Writes.put
    exact Wire.writes_done
  · unfold readFromParcel
    iterate 5 apply Wire.Cuts.get exhausts
    exact Wire.cuts_done _

end BgTaskMgr.Efficiency

open BgTaskMgr.Continuous BgTaskMgr.Efficiency BgTaskMgr.Transient

namespace BgTaskMgr

/-- A message of plain fields can be sent and arrives as it was, or cut and noticed. -/
theorem plain_parcels_exact {σ : Type u} {String16 : Type} {parcels : Parcels σ String16}
    (exhausts : parcels.parcel.Exhausts) :
    (∀ self : DelaySuspendInfo,
      parcels.parcel.Carries (self.marshalling parcels)
        (DelaySuspendInfo.readFromParcel parcels) self ∧
      parcels.parcel.RejectsCuts (self.marshalling parcels)
        (DelaySuspendInfo.readFromParcel parcels) []) ∧
    (∀ self : TransientTaskAppInfo,
      parcels.parcel.Carries (self.marshalling parcels)
        (TransientTaskAppInfo.readFromParcel parcels) self ∧
      parcels.parcel.RejectsCuts (self.marshalling parcels)
        (TransientTaskAppInfo.readFromParcel parcels) []) ∧
    (∀ self : BackgroundTaskStateInfo,
      parcels.parcel.Carries (self.marshalling parcels)
        (BackgroundTaskStateInfo.readFromParcel parcels) self ∧
      parcels.parcel.RejectsCuts (self.marshalling parcels)
        (BackgroundTaskStateInfo.readFromParcel parcels) []) ∧
    (∀ self : ContinuousTaskParamForInnerData,
      parcels.parcel.RejectsCuts (self.marshalling parcels)
        (ContinuousTaskParamForInnerData.readFromParcel parcels) []) ∧
    (∀ self : OwnedResourceInfo,
      parcels.parcel.RejectsCuts (self.marshalling parcels)
        (OwnedResourceInfo.readFromParcel parcels) []) ∧
    (∀ self : ResourceCallbackInfo,
      parcels.parcel.RejectsCuts (self.marshalling parcels)
        (ResourceCallbackInfo.readFromParcel parcels) []) :=
  ⟨fun self => ⟨self.carries, self.rejectsCuts exhausts⟩,
    fun self => ⟨self.carries, self.rejectsCuts exhausts⟩,
    fun self => ⟨self.carries, self.rejectsCuts exhausts⟩,
    fun self => self.rejectsCuts exhausts, fun self => self.rejectsCuts exhausts,
    fun self => self.rejectsCuts exhausts⟩

/-- A transient task without its pid is rejected. -/
theorem plain_parcels_exact_app :
    TransientTaskAppInfo.readFromParcel listParcels
      [⟨.string16, "app".toList⟩, ⟨.int32, 100⟩] = none := by
  have rejected := ((plain_parcels_exact exhausts_listParcels).2.1 ⟨"app", 100, 7⟩).2
  have written : TransientTaskAppInfo.marshalling listParcels ⟨"app", 100, 7⟩ [] =
      some ([⟨.string16, "app".toList⟩, ⟨.int32, 100⟩] ++ [⟨.int32, 7⟩]) := rfl
  exact (rejected written rfl (by simp) rfl).mpr List.not_mem_nil

end BgTaskMgr
