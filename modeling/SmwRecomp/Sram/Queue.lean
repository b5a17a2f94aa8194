import SmwRecomp.Lib.Run
import Mathlib.Logic.Function.Basic

/-!
# The SRAM write queue

`src/src/mods/coop/coop_storage.c`: the list of images, the worker thread that writes them, and the
host's calls.

* A `StorageImage *` is the index of the image in the list `first`; the list only grows until
  `release_images` empties it.
* A path is what `RtlSramFilePath` yields; SRAM that is missing or empty is the empty list.
* A physical write leaves any contents in its file when it fails, and the image when it succeeds.
* `Act` — the steps of both threads, each under the lock or on data only one of them touches;
  `Storage.next` — the state after a step, `none` where the step cannot happen.
-/

set_option autoImplicit false

namespace SmwRecomp.Sram

structure StorageImage (π : Type) where
  path : π
  bytes : List UInt8
  success : Bool
  deriving DecidableEq

/-- The worker thread: not there, at the condition variable, between two locks with an image, or
returned. -/
inductive Worker where
  | none
  | waiting
  | writing (image : Nat)
  | exited
  deriving DecidableEq

/-- The host thread: outside, waiting for the worker in `wait_worker`, or in the loop of
`SmwCoopFinishStorage`. -/
inductive Host where
  | idle
  | joining
  | retrying (image : Nat) (ok : Bool)
  deriving DecidableEq

structure Storage (π : Type) where
  images : List (StorageImage π)
  pending : Option Nat
  stopping : Bool
  worker : Worker
  host : Host
  /-- `RtlSramFilePath` under the current save root. -/
  path : π
  /-- `g_sram`. -/
  sram : List UInt8
  files : π → Option (List UInt8)

variable {π : Type} [DecidableEq π]

/-! ## Writes -/

/-- `RtlWriteSramImage` for image `i`: `content` is what its file holds afterwards. -/
def Storage.write (s : Storage π) (i : Nat) (content : Option (List UInt8)) (ok : Bool) :
    Option (Storage π) :=
  match s.images[i]? with
  | none => none
  | some image =>
    if ok = true ∧ content ≠ some image.bytes then none
    else some { s with
      files := Function.update s.files image.path content
      images := s.images.set i { image with success := ok } }

/-! ## `storage_worker` -/

/-- `image=pending;pending=image->next`. -/
def Storage.take (s : Storage π) : Option (Storage π) :=
  match s.worker, s.pending with
  | .waiting, some k => some { s with
      worker := .writing k
      pending := if k + 1 < s.images.length then some (k + 1) else none }
  | _, _ => none

def Storage.workerWrite (s : Storage π) (i : Nat) (content : Option (List UInt8)) (ok : Bool) :
    Option (Storage π) :=
  if s.worker = .writing i then (s.write i content ok).map fun s => { s with worker := .waiting }
  else none

def Storage.exit (s : Storage π) : Option (Storage π) :=
  if s.worker = .waiting ∧ s.pending = none ∧ s.stopping = true
    then some { s with worker := .exited }
  else none

/-! ## `SmwCoopQueueStorage` -/

/-- What became of a request to queue the current SRAM. -/
inductive Queued where
  /-- There is no SRAM. -/
  | skipped
  /-- No memory for the image. -/
  | unallocated
  /-- `start_worker` failed. -/
  | threadless
  | accepted
  deriving DecidableEq

/-- `start_worker`, with the thread created. -/
def Storage.startWorker (s : Storage π) : Storage π :=
  if s.worker = .none then { s with stopping := false, worker := .waiting } else s

/-- The image of the current SRAM becomes the last one. -/
def Storage.append (s : Storage π) : Storage π :=
  { s with
    images := s.images ++ [⟨s.path, s.sram, false⟩]
    pending := if s.pending = none then some s.images.length else s.pending }

def Storage.queue (s : Storage π) : Queued → Option (Storage π)
  | .skipped => if s.sram = [] then some s else none
  | .unallocated => if s.sram = [] then none else some s
  | .threadless =>
    if s.sram = [] ∨ s.worker ≠ .none then none else some { s with stopping := false }
  | .accepted => if s.sram = [] then none else some s.startWorker.append

/-! ## `SmwCoopReadQueuedStorage` -/

/-- The loop that looks for the latest image of a path. -/
def latest (path : π) (images : List (StorageImage π)) : Option (StorageImage π) :=
  images.foldl (fun found image => if image.path = path then some image else found) none

/-- The result and the state; `none` where the host dies of an image of another size. -/
def Storage.readQueued (s : Storage π) : Option (Bool × Storage π) :=
  match latest s.path s.images with
  | none => some (false, s)
  | some image => if image.bytes.length ≠ s.sram.length then none
      else some (true, { s with sram := image.bytes })

/-! ## `SmwCoopFinishStorage` -/

/-- Whether a later image has the path. -/
def superseded (images : List (StorageImage π)) (i : Nat) (path : π) : Bool :=
  (images.drop (i + 1)).any (fun later => decide (path = later.path))

/-- `wait_worker`, up to the join. -/
def Storage.finish (s : Storage π) : Storage π :=
  if s.worker = .none then { s with host := .retrying 0 true }
  else { s with stopping := true, host := .joining }

def Storage.join (s : Storage π) : Option (Storage π) :=
  if s.host = .joining ∧ s.worker = .exited
    then some { s with worker := .none, host := .retrying 0 true }
  else none

/-- `if(superseded || image->success)continue`. -/
def Storage.pass (s : Storage π) : Option (Storage π) :=
  match s.host with
  | .retrying i ok =>
    match s.images[i]? with
    | none => none
    | some image =>
      if superseded s.images i image.path = true ∨ image.success = true
        then some { s with host := .retrying (i + 1) ok }
      else none
  | _ => none

def Storage.retry (s : Storage π) (i : Nat) (content : Option (List UInt8)) (wrote : Bool) :
    Option (Storage π) :=
  match s.host with
  | .retrying j ok =>
    match s.images[i]? with
    | none => none
    | some image =>
      if j ≠ i ∨ superseded s.images i image.path = true ∨ image.success = true then none
      else (s.write i content wrote).map fun s => { s with host := .retrying (i + 1) (ok && wrote) }
  | _ => none

/-- The end of the loop; `release_images` when everything is written. -/
def Storage.finished (s : Storage π) (success : Bool) : Option (Storage π) :=
  match s.host with
  | .retrying i ok =>
    if i ≠ s.images.length ∨ ok ≠ success then none
    else if ok = true then some { s with host := .idle, images := [], pending := none }
    else some { s with host := .idle }
  | _ => none

/-! ## Steps -/

inductive Act (π : Type) where
  /-- The game, or a read of the file, changes SRAM. -/
  | guest (sram : List UInt8)
  /-- `RtlSetSaveRoot`. -/
  | root (path : π)
  | queue (outcome : Queued)
  | read (found : Bool)
  | finish
  | join
  | pass
  | retry (image : Nat) (content : Option (List UInt8)) (ok : Bool)
  | finished (ok : Bool)
  | take
  | write (image : Nat) (content : Option (List UInt8)) (ok : Bool)
  | exit

/-- A call of the host starts when the last one has returned. -/
def Storage.call (s : Storage π) (t : Option (Storage π)) : Option (Storage π) :=
  if s.host = .idle then t else none

def Storage.next (s : Storage π) : Act π → Option (Storage π)
  | .guest sram => s.call (some { s with sram := sram })
  | .root path => s.call (some { s with path := path })
  | .queue outcome => s.call (s.queue outcome)
  | .read found => s.call (s.readQueued.bind fun r => if r.1 = found then some r.2 else none)
  | .finish => s.call (some s.finish)
  | .join => s.join
  | .pass => s.pass
  | .retry image content ok => s.retry image content ok
  | .finished ok => s.finished ok
  | .take => s.take
  | .write image content ok => s.workerWrite image content ok
  | .exit => s.exit

def Storage.Step (s : Storage π) (act : Act π) (t : Storage π) : Prop := s.next act = some t

/-- Before the first image. -/
def Storage.start (path : π) (sram : List UInt8) (files : π → Option (List UInt8)) : Storage π where
  images := []
  pending := none
  stopping := false
  worker := .none
  host := .idle
  path := path
  sram := sram
  files := files

end SmwRecomp.Sram
