import Mathlib.Logic.Function.Basic
import Motogram.Foundation.Run

/-!
# Media assets whose upload is finished

`finalizeUpload` marks an asset as PROCESSING and then enqueues its job, and for an asset that is no longer
UPLOADING it does neither. So the first call whose mark takes effect decides (`enqueues_iff`): either it
enqueues the job, or no later call will.
-/

set_option autoImplicit false

namespace Motogram.Media

open Foundation Function

/-! ## Assets and jobs -/

abbrev AssetId := String

inductive MediaCategory where
  | profileAvatar | profileCover | postImage | postVideo | storyImage | storyVideo
  | motorcyclePhoto | communityCover | eventCover | messageAttachment
  deriving DecidableEq

inductive MediaStatus where
  | uploading | processing | ready | failed
  deriving DecidableEq

structure MediaAsset where
  ownerId : String
  mimeType : String
  category : MediaCategory
  parentId : Option String
  bucket : String
  status : MediaStatus
  originalKey : Option String
  thumbnailKey : Option String
  mediumKey : Option String
  width : Option Nat
  height : Option Nat
  sizeBytes : Option Nat
  processingError : Option String
  deriving DecidableEq

/-- The data of a job that the processor reads. -/
structure MediaProcessJobData where
  assetId : AssetId
  originalKey : String
  bucket : String
  category : MediaCategory
  ownerId : String
  parentId : Option String

/-- The job that `finalizeUpload` enqueues. -/
def jobData (assetId : AssetId) (asset : MediaAsset) : MediaProcessJobData where
  assetId := assetId
  originalKey := asset.originalKey.getD ""
  bucket := asset.bucket
  category := asset.category
  ownerId := asset.ownerId
  parentId := asset.parentId

/-- A call that fails: its message, and whether it takes effect all the same. -/
structure Fault where
  message : String
  applied : Bool
  deriving DecidableEq

/-! ## The call -/

/-- The assets that are not deleted, and the jobs that were enqueued. -/
structure Uploads where
  assets : AssetId → Option MediaAsset
  jobs : List MediaProcessJobData

/-- Which calls of the function fail. -/
structure FinalizeFaults where
  update : Option Fault
  enqueue : Option Fault

inductive FinalizeError where
  | assetNotFound
  | notOwner
  | thrown (message : String)

def Uploads.mark (s : Uploads) (assetId : AssetId) (asset : MediaAsset) : Uploads :=
  { s with assets := update s.assets assetId (some { asset with status := .processing }) }

def Uploads.enqueueImage (s : Uploads) (job : MediaProcessJobData) : Uploads := { s with jobs := s.jobs ++ [job] }

/-- What is returned is the asset whose `toDto` is. -/
def finalizeUpload (userId : String) (assetId : AssetId) (faults : FinalizeFaults) (s : Uploads) :
    Except FinalizeError MediaAsset × Uploads :=
  match s.assets assetId with
  | none => (.error .assetNotFound, s)
  | some asset =>
    if asset.ownerId ≠ userId then (.error .notOwner, s)
    else if asset.status ≠ .uploading then (.ok asset, s)
    else
      let marked := s.mark assetId asset
      match faults.update with
      | some fault => (.error (.thrown fault.message), if fault.applied then marked else s)
      | none =>
        let queued := marked.enqueueImage (jobData assetId asset)
        match faults.enqueue with
        | some fault => (.error (.thrown fault.message), if fault.applied then queued else marked)
        | none => (.ok { asset with status := .processing }, queued)

/-- The update takes effect. -/
def FinalizeFaults.marks (faults : FinalizeFaults) : Bool := faults.update.all (·.applied)

/-- The update is answered, and the enqueueing takes effect. -/
def FinalizeFaults.queues (faults : FinalizeFaults) : Bool := faults.update.isNone && faults.enqueue.all (·.applied)

/-! ## Calls of the owner -/

structure PendingUpload where
  uploads : Uploads
  assetId : AssetId
  asset : MediaAsset
  found : uploads.assets assetId = some asset
  uploading : asset.status = .uploading
  unqueued : ∀ job ∈ uploads.jobs, job.assetId ≠ assetId

def Uploads.Queued (s : Uploads) (assetId : AssetId) : Prop := ∃ job ∈ s.jobs, job.assetId = assetId

namespace PendingUpload

variable (upload : PendingUpload)

/-- A call of the owner. -/
def turn (s : Uploads) (faults : FinalizeFaults) : Uploads :=
  (finalizeUpload upload.asset.ownerId upload.assetId faults s).2

/-- **After the calls, one more in which nothing fails leaves the asset with a job.** -/
def Enqueues (calls : List FinalizeFaults) : Prop :=
  (follow upload.turn upload.uploads (calls ++ [⟨none, none⟩])).Queued upload.assetId

/-- **The first call whose update takes effect enqueues the job.** -/
def FirstQueues (calls : List FinalizeFaults) : Prop :=
  ∀ first, calls.find? (·.marks) = some first → first.queues = true

variable {upload} {s : Uploads} {asset : MediaAsset} {faults : FinalizeFaults}

theorem turn_of_marked (found : s.assets upload.assetId = some asset) (marked : asset.status ≠ .uploading) :
    upload.turn s faults = s := by
  simp only [turn, finalizeUpload, found, if_pos marked]
  split
  · rfl
  · rfl

/-- A job that was enqueued stays. -/
theorem queued_turn (queued : s.Queued upload.assetId) (faults : FinalizeFaults) :
    (upload.turn s faults).Queued upload.assetId := by
  obtain ⟨job, member, same⟩ := queued
  refine ⟨job, ?_, same⟩
  unfold turn finalizeUpload
  repeat' split
  all_goals first | exact member | exact List.mem_append_left _ member

theorem turn_of_unmarked (unmarked : faults.marks = false) : upload.turn upload.uploads faults = upload.uploads := by
  cases failed : faults.update with
  | none => simp [FinalizeFaults.marks, failed] at unmarked
  | some fault =>
    have lost : fault.applied = false := by simpa [FinalizeFaults.marks, failed] using unmarked
    simp [turn, finalizeUpload, upload.found, upload.uploading, failed, lost]

theorem queued_of_queues (queues : faults.queues = true) :
    (upload.turn upload.uploads faults).Queued upload.assetId := by
  obtain ⟨answered, taken⟩ := (Bool.and_eq_true _ _).mp queues
  refine ⟨jobData upload.assetId upload.asset, ?_, rfl⟩
  cases failed : faults.enqueue with
  | none => simp [turn, finalizeUpload, upload.found, upload.uploading, Option.isNone_iff_eq_none.mp answered, failed,
      Uploads.enqueueImage]
  | some fault =>
    have applied : fault.applied = true := by simpa [failed] using taken
    simp [turn, finalizeUpload, upload.found, upload.uploading, Option.isNone_iff_eq_none.mp answered, failed, applied,
      Uploads.enqueueImage]

theorem follow_of_not_queues (marks : faults.marks = true) (unqueued : faults.queues = false)
    (calls : List FinalizeFaults) : follow upload.turn (upload.turn upload.uploads faults) calls =
      upload.uploads.mark upload.assetId upload.asset := by
  have marked : upload.turn upload.uploads faults = upload.uploads.mark upload.assetId upload.asset := by
    cases failed : faults.update with
    | some fault =>
      have applied : fault.applied = true := by simpa [FinalizeFaults.marks, failed] using marks
      simp [turn, finalizeUpload, upload.found, upload.uploading, failed, applied]
    | none =>
      cases failed' : faults.enqueue with
      | none => simp [FinalizeFaults.queues, failed, failed'] at unqueued
      | some fault =>
        have lost : fault.applied = false := by simpa [FinalizeFaults.queues, failed, failed'] using unqueued
        simp [turn, finalizeUpload, upload.found, upload.uploading, failed, failed', lost]
  rw [marked]
  induction calls with
  | nil => rfl
  | cons faults calls ih =>
    rw [follow_cons, turn_of_marked (update_self ..) (by rintro ⟨⟩)]
    exact ih

/-- **A job is enqueued in the end exactly when the first call whose update takes effect enqueues it.** -/
theorem enqueues_iff (upload : PendingUpload) (calls : List FinalizeFaults) :
    upload.Enqueues calls ↔ FirstQueues calls := by
  induction calls with
  | nil => exact ⟨fun _ => nofun, fun _ => queued_of_queues rfl⟩
  | cons faults calls ih =>
    rw [Enqueues, List.cons_append, follow_cons, FirstQueues, List.find?_cons]
    cases marks : faults.marks with
    | false =>
      rw [turn_of_unmarked marks]
      exact ih
    | true =>
      cases queues : faults.queues with
      | true =>
        have keeps : ∀ s faults, s.Queued upload.assetId → (upload.turn s faults).Queued upload.assetId :=
          fun s faults queued => queued_turn queued faults
        have stays := throughout_of_invariant keeps (queued_of_queues queues) (calls ++ [⟨none, none⟩])
        exact ⟨fun _ first same => Option.some.inj same ▸ queues, fun _ => stays.last⟩
      | false =>
        rw [follow_of_not_queues marks queues]
        refine ⟨?_, fun first => ?_⟩
        · rintro ⟨job, member, same⟩
          exact absurd same (upload.unqueued job member)
        · cases queues.symm.trans (first faults rfl)

def coverId : AssetId := "3f2504e0-4f89-41d3-9a0c-0305e82c3301"

def cover : MediaAsset where
  ownerId := "rider"
  mimeType := "image/jpeg"
  category := .profileCover
  parentId := none
  bucket := "media"
  status := .uploading
  originalKey := some "tmp/3f2504e0-4f89-41d3-9a0c-0305e82c3301.jpg"
  thumbnailKey := none
  mediumKey := none
  width := none
  height := none
  sizeBytes := some 1000
  processingError := none

def coverUpload : PendingUpload where
  uploads :=
    { assets := update (fun _ => none) coverId (some cover)
      jobs := [] }
  assetId := coverId
  asset := cover
  found := by simp only [update_self]
  uploading := rfl
  unqueued := nofun

/-- The enqueueing fails once, and the cover is PROCESSING for good. -/
theorem cover_never_enqueued : ¬ coverUpload.Enqueues [⟨none, some ⟨"connection lost", false⟩⟩] := by
  rw [Enqueues, List.cons_append, follow_cons, follow_of_not_queues rfl rfl]
  rintro ⟨job, member, -⟩
  exact List.not_mem_nil member

end PendingUpload

end Motogram.Media
