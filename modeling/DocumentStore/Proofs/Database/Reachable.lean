import DocumentStore.Proofs.Database.Reopen

/-!
# Reachable databases

A database is reachable if it has been opened from a folder, whatever was there, and has served any
requests since.  All its tables are valid, and its folder is in place on the disk.
-/

namespace DocumentStore

namespace Database

inductive Reachable : Database → Disk → Prop
  | opened {options : Options} {held : List Nat} {disk opened : Disk} {database : Database}
      (wellFormed : disk.WellFormed)
      (opens : openFolder options held disk = (.ok database, opened)) : Reachable database opened
  | served {database : Database} {disk : Disk} {request : Request}
      (reachable : Reachable database disk) (sorted : request.call.Sorted) :
      Reachable (request.serve database disk).database (request.serve database disk).disk

variable {database : Database} {disk : Disk}

theorem serve_effect (hsound : database.Sound) {request : Request}
    (hsorted : request.call.Sorted) :
    database.Effect { disk with denied := request.denied } (request.serve database disk).database
      (request.serve database disk).disk :=
  Call.perform_effect hsound.named hsorted

theorem Sound.serve (hsound : database.Sound) {request : Request}
    (hsorted : request.call.Sorted) : (request.serve database disk).database.Sound :=
  hsound.effect (serve_effect hsound hsorted)

theorem Sound.serveAll (hsound : database.Sound) {requests : List Request}
    (hsorted : ∀ request ∈ requests, request.call.Sorted) :
    (serveAll requests database disk).1.Sound := by
  induction requests generalizing database disk with
  | nil => exact hsound
  | cons request rest ih =>
      rw [List.forall_mem_cons] at hsorted
      exact ih (hsound.serve hsorted.1) hsorted.2

theorem Reachable.sound (hreachable : database.Reachable disk) : database.Sound := by
  induction hreachable with
  | opened wellFormed opens => exact (inStep_of_openFolder wellFormed opens).1.sound
  | served _ sorted ih => exact ih.serve sorted

theorem Reachable.housed (hreachable : database.Reachable disk) : database.Housed disk := by
  induction hreachable with
  | opened wellFormed opens => exact (inStep_of_openFolder wellFormed opens).1.housed
  | @served database disk request reachable sorted ih =>
      have hdenied : database.Housed { disk with denied := request.denied } := ih.congr rfl
      exact hdenied.effect (serve_effect reachable.sound sorted)

/-! ## A new database -/

/-- A database whose folder has just been made. -/
def fresh : Database :=
  ⟨⟨⟨["fresh"]⟩, .json, false⟩, .full, [], ⟨⟨["fresh", lockFile]⟩, 0⟩⟩

def freshDisk : Disk :=
  { Disk.empty with entries := [("fresh", .folder [(lockFile, .file 0 [])])], nextSerial := 1 }

theorem openFolder_fresh :
    openFolder { folder := ⟨["fresh"]⟩ } [] Disk.empty = (.ok fresh, freshDisk) := by
  with_unfolding_all rfl

theorem reachable_fresh : fresh.Reachable freshDisk :=
  .opened Disk.wellFormed_empty openFolder_fresh

end Database

end DocumentStore
