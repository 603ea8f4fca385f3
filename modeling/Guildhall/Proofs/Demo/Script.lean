import Guildhall.Proofs.Store.Assembly
import Guildhall.Proofs.Store.Rollback
import Guildhall.Store.Demo

/-!
Steps of a script: the identifiers that they draw from a generator, and the writes that they come to
with these. A script carries out these writes in order, each as a transaction of its own, up to the
first that fails.
-/

namespace Guildhall

open Calendar

theorem Storage.run_write (now : DateTime) (write : Write) (origin : Origin) (db : Database)
    (versioned : Bool) :
    Storage.run now (.write write) ⟨some ⟨origin, db⟩, versioned⟩ =
      match write.statement Catalog.declared now db with
      | .ok left => (.ok (write.answer db), ⟨some ⟨origin, left⟩, versioned⟩)
      | .error failure => (.error failure, ⟨some ⟨origin, db⟩, versioned⟩) := by
  simp only [run, attempt, catalog_declared, Guildhall.run_write]
  cases write.statement Catalog.declared now db <;> rfl

namespace Demo

open Snowflake

def slots : List Step → List Slot
  | [] => []
  | .draw slot :: rest => slot :: slots rest
  | .write _ :: rest => slots rest

def writes (now : DateTime) : List Step → Drawn → List Int → List Write
  | [], _, _ => []
  | .draw slot :: rest, drawn, id :: ids => writes now rest ((slot, id) :: drawn) ids
  | .draw _ :: _, _, [] => []
  | .write make :: rest, drawn, ids => make now drawn :: writes now rest drawn ids

theorem writes_prefix (now : DateTime) (steps : List Step) (drawn : Drawn) {few ids : List Int}
    (begins : few <+: ids) : writes now steps drawn few <+: writes now steps drawn ids := by
  induction steps generalizing drawn few ids with
  | nil => exact List.prefix_rfl
  | cons step rest ih =>
      cases step with
      | write make => exact List.cons_prefix_cons.mpr ⟨rfl, ih drawn begins⟩
      | draw slot =>
          cases few with
          | nil => exact List.nil_prefix
          | cons id few =>
              obtain ⟨more, rfl⟩ := begins
              exact ih ((slot, id) :: drawn) (List.prefix_append few more)

def verdict (short : Prop) [Decidable short] : Except Failure Unit → Except Stop Unit
  | .error failure => .error (.store failure)
  | .ok () => if short then .error .clock else .ok ()

/-- A script leaves what its writes leave. -/
theorem takeAll_performs (now : DateTime) (origin : Origin) (versioned : Bool) (steps : List Step)
    {db : Database} {progress : Progress}
    (storage : progress.storage = ⟨some ⟨origin, db⟩, versioned⟩) :
    let ids := progress.generator.issue (slots steps).length progress.readings
    let performed := perform now (writes now steps progress.drawn ids) db
    (takeAll now steps progress).2.storage = ⟨some ⟨origin, performed.2⟩, versioned⟩ ∧
      (takeAll now steps progress).1 =
        verdict (ids.length < (slots steps).length) performed.1 := by
  induction steps generalizing db progress with
  | nil => exact ⟨storage, rfl⟩
  | cons step rest ih =>
      cases step with
      | draw slot =>
          simp only [takeAll, Progress.take, slots, List.length_cons, Generator.issue]
          cases progress.generator.advance progress.readings with
          | none => exact ⟨storage, rfl⟩
          | some reached =>
              let next : Progress := { progress with
                generator := reached.1
                readings := reached.2
                drawn := (slot, reached.1.id) :: progress.drawn }
              simpa [writes] using @ih db next storage
      | write make =>
          simp only [takeAll, Progress.take, slots, writes, perform, storage, Storage.run_write]
          cases (make now progress.drawn).statement Catalog.declared now db with
          | error failure => exact ⟨rfl, rfl⟩
          | ok left => exact ih rfl

theorem takeAll_drawn (now : DateTime) (steps : List Step) {progress : Progress}
    (done : (takeAll now steps progress).1 = .ok ()) :
    (takeAll now steps progress).2.drawn =
      ((slots steps).zip
        (progress.generator.issue (slots steps).length progress.readings)).reverse ++
          progress.drawn := by
  induction steps generalizing progress with
  | nil => rfl
  | cons step rest ih =>
      cases step with
      | draw slot =>
          simp only [takeAll, Progress.take, slots, List.length_cons, Generator.issue] at done ⊢
          cases advanced : progress.generator.advance progress.readings with
          | none => simp [advanced] at done
          | some reached =>
              simp only [advanced] at done ⊢
              rw [ih done]
              simp
      | write make =>
          simp only [takeAll, Progress.take] at done ⊢
          cases ran : progress.storage.run now (.write (make now progress.drawn)) with
          | mk outcome storage =>
              cases outcome with
              | error failure => simp [ran] at done
              | ok answer =>
                  simp only [ran] at done ⊢
                  exact ih done

end Demo

end Guildhall
