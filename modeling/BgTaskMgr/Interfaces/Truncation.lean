import BgTaskMgr.Interfaces.Parcels

/-!
# Truncated parcels

A presence flag that is missing reads as `false`.  The message that is cut right before the
flag of its progress information passes for one without it; every other cut is noticed by a
later read, but for the one before the want agent of a data transfer, behind which there is
only the other flag.
-/

set_option autoImplicit false

universe u

namespace BgTaskMgr.Continuous

variable {σ : Type u} {String16 α : Type}

/-! ## Cuts -/

section Objects

variable {parcels : ObjectParcels σ String16} (exhausts : parcels.parcel.Exhausts)

include exhausts

theorem ProgressInfo.cuts_read {onward : ProgressInfo → Wire.Reader σ α} (self : ProgressInfo)
    (through : parcels.parcel.Cuts (onward self) [] []) :
    parcels.parcel.Cuts (read parcels onward) (self.items parcels) [] := by
  unfold read
  iterate 4 apply Wire.Cuts.get exhausts
  simp only [parcels.str16ToStr8_str8ToStr16]
  exact through

/-- Of the last field only a cut right before its flag passes. -/
theorem cuts_progressTail (progressInfo : Option ProgressInfo)
    {onward : Option ProgressInfo → Wire.Reader σ α} (passes : ∀ s, onward none s ≠ none) :
    parcels.parcel.Cuts
      (parcels.readBool fun valid =>
        Wire.getSome valid (ProgressInfo.readParcelable parcels) onward)
      (progressTail parcels progressInfo) [progressTail parcels progressInfo] := by
  apply Wire.Cuts.getD_gap exhausts
  · have cuts : parcels.parcel.Cuts
        (Wire.getSome progressInfo.isSome (ProgressInfo.readParcelable parcels) onward)
        (Wire.fieldItems (ProgressInfo.parcelableItems parcels) progressInfo ++ []) [] := by
      apply Wire.Cuts.getSome
      · intro info through
        rw [List.append_nil]
        exact Wire.Cuts.get exhausts (ProgressInfo.cuts_read exhausts info through)
      · exact Wire.cuts_done _
    rwa [List.append_nil] at cuts
  · intro s empty
    exact passes s

theorem ProgressInfo.rejectsCuts (self : ProgressInfo) :
    parcels.parcel.RejectsCuts (self.marshalling parcels) (readFromParcel parcels) [] := by
  apply Wire.Writes.rejectsCuts
  · exact self.writes_write Wire.writes_done
  · rw [List.append_nil]
    exact cuts_read exhausts self (Wire.cuts_done _)

theorem ContinuousTaskRequest.rejectsCuts (self : ContinuousTaskRequest) :
    parcels.parcel.RejectsCuts (self.marshalling parcels) (readFromParcel parcels)
      [progressTail parcels self.progressInfo] := by
  apply (self.writes_marshalling parcels).rejectsCuts
  unfold readFromParcel
  iterate 2 apply Wire.Cuts.get exhausts
  apply Wire.Cuts.getD exhausts
  · apply Wire.Cuts.getSome_get exhausts .wantAgent _ rfl
    iterate 3 apply Wire.Cuts.get exhausts
    exact cuts_progressTail exhausts _ (by simp)
  · intro s empty
    simp [Wire.getSome, Wire.get, exhausts empty]

theorem ContinuousTaskParamData.rejectsCuts (self : ContinuousTaskParamData) :
    parcels.parcel.RejectsCuts (self.marshalling parcels) (readFromParcel parcels)
      [progressTail parcels self.progressInfo] := by
  apply (self.writes_marshalling parcels).rejectsCuts
  unfold readFromParcel
  iterate 2 apply Wire.Cuts.get exhausts
  apply Wire.Cuts.getD exhausts
  · apply Wire.Cuts.getSome_get exhausts .wantAgent _ rfl
    iterate 3 apply Wire.Cuts.get exhausts
    apply Wire.Cuts.getSome_get exhausts .uint32Vector _ self.isSome_sentModes
    apply Wire.Cuts.get exhausts
    unfold readFromParcelNewApi
    iterate 7 apply Wire.Cuts.get exhausts
    exact cuts_progressTail exhausts _ (by simp)
  · intro s empty
    simp [Wire.getSome, Wire.get, exhausts empty]

theorem DataTransferProgress.rejectsCuts (self : DataTransferProgress) :
    parcels.parcel.RejectsCuts (self.marshalling parcels) (readFromParcel parcels)
      [self.wantAgentTail parcels, progressTail parcels self.progressInfo] := by
  apply (self.writes_marshalling parcels).rejectsCuts
  unfold readFromParcel
  apply Wire.Cuts.get exhausts
  apply Wire.Cuts.getD_gap exhausts
  · apply Wire.Cuts.getSome_get exhausts .wantAgent _ rfl
    exact cuts_progressTail exhausts _ (by simp)
  · intro s empty
    simp [Wire.getSome, ObjectParcels.readBool, Wire.getD, exhausts empty]

end Objects

section Plain

variable {parcels : Parcels σ String16} (exhausts : parcels.parcel.Exhausts)

include exhausts

theorem ContinuousTaskInfo.rejectsCuts (self : ContinuousTaskInfo) :
    parcels.parcel.RejectsCuts (self.marshalling parcels) (readFromParcel parcels) [] := by
  apply Wire.Writes.rejectsCuts
  · iterate 15 apply Wire.Writes.put
    exact Wire.writes_done
  · unfold readFromParcel
    iterate 15 apply Wire.Cuts.get exhausts
    exact Wire.cuts_done _

theorem ContinuousTaskCallbackData.rejectsCuts (self : ContinuousTaskCallbackData) :
    parcels.parcel.RejectsCuts (self.marshalling parcels) (readFromParcel parcels) [] := by
  apply Wire.Writes.rejectsCuts
  · iterate 25 apply Wire.Writes.put
    exact Wire.writes_done
  · unfold readFromParcel
    iterate 25 apply Wire.Cuts.get exhausts
    exact Wire.cuts_done _

end Plain

/-- A message that is cut is rejected, unless the part cut off begins with the flag of the
progress information, or in a data transfer with the flag of the want agent. -/
theorem cut_parcels_rejected_iff {τ : Type u} {parcels : Parcels σ String16}
    {objects : ObjectParcels τ String16} (exhausts : parcels.parcel.Exhausts)
    (objectsExhaust : objects.parcel.Exhausts) :
    (∀ self : ContinuousTaskParamData,
      objects.parcel.RejectsCuts (self.marshalling objects)
        (ContinuousTaskParamData.readFromParcel objects)
        [progressTail objects self.progressInfo]) ∧
    (∀ self : ContinuousTaskRequest,
      objects.parcel.RejectsCuts (self.marshalling objects)
        (ContinuousTaskRequest.readFromParcel objects)
        [progressTail objects self.progressInfo]) ∧
    (∀ self : DataTransferProgress,
      objects.parcel.RejectsCuts (self.marshalling objects)
        (DataTransferProgress.readFromParcel objects)
        [self.wantAgentTail objects, progressTail objects self.progressInfo]) ∧
    (∀ self : ProgressInfo,
      objects.parcel.RejectsCuts (self.marshalling objects)
        (ProgressInfo.readFromParcel objects) []) ∧
    (∀ self : ContinuousTaskCallbackData,
      parcels.parcel.RejectsCuts (self.marshalling parcels)
        (ContinuousTaskCallbackData.readFromParcel parcels) []) ∧
    (∀ self : ContinuousTaskInfo,
      parcels.parcel.RejectsCuts (self.marshalling parcels)
        (ContinuousTaskInfo.readFromParcel parcels) []) :=
  ⟨ContinuousTaskParamData.rejectsCuts objectsExhaust,
    ContinuousTaskRequest.rejectsCuts objectsExhaust,
    DataTransferProgress.rejectsCuts objectsExhaust, ProgressInfo.rejectsCuts objectsExhaust,
    ContinuousTaskCallbackData.rejectsCuts exhausts, ContinuousTaskInfo.rejectsCuts exhausts⟩

theorem exhausts_listParcels : listParcels.parcel.Exhausts := Wire.exhausts_ofList

theorem exhausts_listObjectParcels : listObjectParcels.parcel.Exhausts := Wire.exhausts_ofList

theorem cut_parcels_rejected_title :
    ProgressInfo.readFromParcel listObjectParcels [⟨.string16, "Download".toList⟩] = none := by
  have rejected := (cut_parcels_rejected_iff exhausts_listParcels
    exhausts_listObjectParcels).2.2.2.1 ⟨"Download", "film.mp4", 40, true⟩
  have written : ProgressInfo.marshalling listObjectParcels ⟨"Download", "film.mp4", 40, true⟩ [] =
      some ([⟨.string16, "Download".toList⟩] ++
        [⟨.string16, "film.mp4".toList⟩, ⟨.int32, 40⟩, ⟨.bool, true⟩]) := rfl
  exact (rejected written rfl (by simp) rfl).mpr List.not_mem_nil

/-- The id alone is a data transfer, without the want agent and the progress that were sent. -/
theorem cut_transfer_accepted :
    DataTransferProgress.marshalling listObjectParcels
        ⟨7, some ⟨none⟩, some ⟨"Download", "film.mp4", 40, true⟩⟩ [] =
      some [⟨.int32, 7⟩, ⟨.bool, true⟩, ⟨.wantAgent, ⟨none⟩⟩, ⟨.bool, true⟩, ⟨.parcelable, ()⟩,
        ⟨.string16, "Download".toList⟩, ⟨.string16, "film.mp4".toList⟩, ⟨.int32, 40⟩,
        ⟨.bool, true⟩] ∧
      DataTransferProgress.readFromParcel listObjectParcels [⟨.int32, 7⟩] =
        some (⟨7, none, none⟩, []) :=
  ⟨rfl, rfl⟩

end BgTaskMgr.Continuous
