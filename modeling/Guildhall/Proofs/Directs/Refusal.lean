import Guildhall.Proofs.Store.Creation
import Guildhall.Proofs.Directs.Pairs

/-!
How the creation of a direct channel ends once its integers fit: with the failure of the first
insertion that fails, or with the channel and all its recipients. The row of the channel goes in
first. A recipient then fails for standing in the list a second time, or for being unknown.
-/

namespace Guildhall.Directs

namespace Draft

variable (draft : Draft) (key : Option String) (db : Database)

def Clashes : Prop :=
  ∃ row ∈ db.directChannels, row.id = draft.id ∨ ∃ name ∈ key, row.pairKey = some name

def Lacks : Prop := ∃ id ∈ draft.ownerId, ¬db.HasUser id

def opened (userIds : List Int) : Database :=
  (db.with .directChannels (draft.row key)).put .recipients
    (db.recipients ++ userIds.map (RecipientRow.mk draft.id))

end Draft

structure Enter (db : Database) (userIds : List Int) : Prop where
  distinct : userIds.Nodup
  known : ∀ userId ∈ userIds, db.HasUser userId

/-- All recipients before this one go in, and then the condition holds of it. -/
def Draft.Reaches (draft : Draft) (db : Database) (condition : List Int → Int → Prop) : Prop :=
  ∃ before userId after, draft.recipients = before ++ userId :: after ∧ Enter db before ∧
    condition before userId

namespace Draft

variable (draft : Draft) (key : Option String) (db : Database)

def Conflicts : Prop :=
  draft.Clashes key db ∨
    ¬draft.Lacks db ∧ draft.Reaches db fun before userId => userId ∈ before

def Dangles : Prop :=
  ¬draft.Clashes key db ∧
    (draft.Lacks db ∨ draft.Reaches db fun before userId => userId ∉ before ∧ ¬db.HasUser userId)

/-- The row of the channel fails, or else the row of a recipient, where the rows before it have
gone in. -/
def FailsFirst (failure : Failure) : Prop :=
  insertRow Catalog.declared .directChannels (draft.row key) db = .error failure ∨
    ∃ before userId after middle, draft.recipients = before ++ userId :: after ∧
      inOrder ({ draft with recipients := before }.statements Catalog.declared key) db =
        .ok middle ∧
      insertRow Catalog.declared .recipients ⟨draft.id, userId⟩ middle = .error failure

end Draft

section Lists

variable {db : Database} {before after : List Int} {userId : Int}

theorem enter_nil : Enter db [] := ⟨List.nodup_nil, List.forall_mem_nil _⟩

theorem enter_concat (entered : Enter db before) (new : userId ∉ before)
    (known : db.HasUser userId) : Enter db (before ++ [userId]) := by
  refine ⟨?_, ?_⟩
  · exact (List.nodup_append_comm.mp (List.nodup_cons.mpr ⟨new, entered.distinct⟩))
  · intro other member
    rcases List.mem_append.mp member with early | last
    · exact entered.known other early
    · exact List.mem_singleton.mp last ▸ known

theorem enter_middle (entered : Enter db (before ++ userId :: after)) :
    userId ∉ before ∧ db.HasUser userId := by
  refine ⟨fun early => ?_, entered.known userId (by simp)⟩
  exact (List.nodup_append.mp entered.distinct).2.2 userId early userId List.mem_cons_self rfl

/-- Only one recipient is the first that is stuck. -/
theorem first_stuck {other : Int} {early late : List Int}
    (same : before ++ userId :: after = early ++ other :: late)
    (entered : Enter db before) (joined : Enter db early)
    (stuck : userId ∈ before ∨ ¬db.HasUser userId) (halted : other ∈ early ∨ ¬db.HasUser other) :
    before = early ∧ userId = other := by
  rcases List.append_eq_append_iff.mp same with ⟨between, rfl, rest⟩ | ⟨between, rfl, rest⟩
  · cases between with
    | nil => exact ⟨by simp, (List.cons.inj rest).1⟩
    | cons first more =>
        obtain ⟨rfl, -⟩ := List.cons.inj rest
        have passed := enter_middle joined
        exact absurd stuck (by simp [passed.1, passed.2])
  · cases between with
    | nil => exact ⟨by simp, (List.cons.inj rest).1.symm⟩
    | cons first more =>
        obtain ⟨rfl, -⟩ := List.cons.inj rest
        have passed := enter_middle entered
        exact absurd halted (by simp [passed.1, passed.2])

end Lists

inductive Opening (draft : Draft) (key : Option String) (db : Database) :
    Except Failure Database → Prop where
  | conflict {columns : String} (conflicts : draft.Conflicts key db) :
      Opening draft key db (.error (.store (.duplicate columns)))
  | noTarget (dangles : draft.Dangles key db) : Opening draft key db (.error (.store .noTarget))
  | opened (free : ¬draft.Clashes key db) (owned : ¬draft.Lacks db)
      (entered : Enter db draft.recipients) :
      Opening draft key db (.ok (draft.opened key db draft.recipients))

section Outcomes

variable {draft : Draft} {key : Option String} {db : Database}

theorem not_dangles_of_conflicts (conflicts : draft.Conflicts key db) : ¬draft.Dangles key db := by
  rintro ⟨free, lacking⟩
  rcases conflicts with clashes | ⟨owned, before, userId, after, listed, entered, twice⟩
  · exact free clashes
  · rcases lacking with lacks | ⟨early, other, late, same, joined, new, unknown⟩
    · exact owned lacks
    · obtain ⟨rfl, rfl⟩ := first_stuck (listed.symm.trans same) entered joined (Or.inl twice)
        (Or.inr unknown)
      exact new twice

theorem taken_row : Taken Catalog.declared .directChannels (draft.row key) db ↔
    draft.Clashes key db := by
  refine taken_named rfl (fun other => ?_) fun other => ?_
  · simp [Table.identity, Draft.row, eq_comm]
  · rw [sameKey_iff]
    constructor
    · rintro ⟨cells, own, stored⟩
      cases key with
      | none => cases own
      | some name =>
          cases own
          obtain ⟨id, kind, ownerId, pairKey, createdAt⟩ := other
          cases pairKey with
          | none => cases stored
          | some other =>
              cases stored
              exact ⟨name, rfl, rfl⟩
    · rintro ⟨name, rfl, same⟩
      exact ⟨_, key_pairKey rfl, key_pairKey same⟩

theorem dangling_row : Dangling Catalog.declared .directChannels (draft.row key)
    (db.with .directChannels (draft.row key)) ↔ draft.Lacks db := by
  refine (dangling_with (by rintro ⟨⟩)).trans ?_
  have owner : (Reference.to "owner_id" .users .clear).Answered .directChannels (draft.row key) db ↔
      ∀ id ∈ draft.ownerId, db.HasUser id := by
    refine answered_to ?_ fun _ => rfl
    obtain ⟨_, _, _, ownerId, _⟩ := draft
    cases ownerId <;> rfl
  refine (dangling_one rfl owner).trans ?_
  simp only [not_forall, exists_prop, Draft.Lacks]

theorem recipient_ends (sound : db.Sound Catalog.declared) (free : ¬draft.Clashes key db)
    {before : List Int} {userId : Int} (fits : [draft.id, userId].all fitsWord = true) :
    (userId ∈ before ∧ ∃ columns, insertRow Catalog.declared .recipients ⟨draft.id, userId⟩
        (draft.opened key db before) = .error (.store (.duplicate columns))) ∨
    (userId ∉ before ∧ ¬db.HasUser userId ∧
      insertRow Catalog.declared .recipients ⟨draft.id, userId⟩ (draft.opened key db before) =
        .error (.store .noTarget)) ∨
    (userId ∉ before ∧ db.HasUser userId ∧
      insertRow Catalog.declared .recipients ⟨draft.id, userId⟩ (draft.opened key db before) =
        .ok (draft.opened key db (before ++ [userId]))) := by
  have fresh : ∀ row ∈ db.directChannels, row.id ≠ draft.id := fun row stored same =>
    free ⟨row, stored, Or.inl same⟩
  have taken : Taken Catalog.declared .recipients ⟨draft.id, userId⟩
      (draft.opened key db before) ↔ userId ∈ before := by
    have same : ∀ other : RecipientRow, Table.identity .recipients ⟨draft.id, userId⟩ =
        Table.identity .recipients other ↔ other = ⟨draft.id, userId⟩ := by
      rintro ⟨channelId, other⟩
      simp [Table.identity, eq_comm]
    refine (taken_identity rfl same).trans ?_
    change (∃ other ∈ db.recipients ++ before.map (RecipientRow.mk draft.id), _) ↔ _
    rw [exists_eq_right, List.mem_append]
    refine (or_iff_right (holds_fresh sound fresh)).trans ?_
    simp
  have lacks : Dangling Catalog.declared .recipients ⟨draft.id, userId⟩
      ((draft.opened key db before).with .recipients ⟨draft.id, userId⟩) ↔
        ¬db.HasUser userId := by
    refine (dangling_with (by rintro ⟨⟩)).trans ?_
    have channel : (draft.opened key db before).HasDirect draft.id :=
      ⟨draft.row key, List.mem_append_right _ (List.mem_singleton_self _), rfl⟩
    refine (dangling_two rfl (answered_id rfl fun _ => rfl) (answered_id rfl fun _ => rfl)).trans ?_
    exact or_iff_right (not_not.mpr channel)
  have ends : Insertion Catalog.declared .recipients ⟨draft.id, userId⟩
      (draft.opened key db before) (insertRow Catalog.declared .recipients ⟨draft.id, userId⟩
        (draft.opened key db before)) := insertRow_ends fits
  generalize insertRow Catalog.declared .recipients ⟨draft.id, userId⟩
    (draft.opened key db before) = outcome at ends
  cases ends with
  | conflict twice => exact Or.inl ⟨taken.mp twice, _, rfl⟩
  | noTarget new dangling =>
      exact Or.inr (Or.inl ⟨mt taken.mpr new, lacks.mp dangling, rfl⟩)
  | added new answered =>
      refine Or.inr (Or.inr ⟨mt taken.mpr new, not_not.mp (mt lacks.mpr answered), ?_⟩)
      simp [Draft.opened, Database.with, Database.put, Database.rows]

theorem recipients_end (sound : db.Sound Catalog.declared) (free : ¬draft.Clashes key db)
    (owned : ¬draft.Lacks db) {before rest : List Int} (listed : draft.recipients = before ++ rest)
    (entered : Enter db before)
    (fits : ∀ userId ∈ rest, [draft.id, userId].all fitsWord = true) :
    Opening draft key db (inOrder (rest.map fun userId =>
      insertRow Catalog.declared .recipients ⟨draft.id, userId⟩) (draft.opened key db before)) := by
  induction rest generalizing before with
  | nil =>
      rw [List.append_nil] at listed
      have ends := Opening.opened free owned (listed ▸ entered)
      rwa [listed] at ends
  | cons userId rest ih =>
      rw [List.map_cons]
      have here := fits userId List.mem_cons_self
      rcases @recipient_ends draft key db sound free before userId here with
        ⟨twice, columns, failed⟩ | ⟨new, unknown, failed⟩ | ⟨new, known, done⟩
      · rw [inOrder_cons_error.mpr (Or.inl failed)]
        exact .conflict (Or.inr ⟨owned, before, userId, rest, listed, entered, twice⟩)
      · rw [inOrder_cons_error.mpr (Or.inl failed)]
        exact .noTarget
          ⟨free, Or.inr ⟨before, userId, rest, listed, entered, new, unknown⟩⟩
      · rw [inOrder_cons_of_ok done]
        exact ih (by simpa using listed) (enter_concat entered new known)
          fun other member => fits other (List.mem_cons_of_mem _ member)

theorem create_ends (sound : db.Sound Catalog.declared) (named : draft.pairKey? = .ok key)
    (fits : ([draft.id, draft.kind] ++ draft.ownerId.toList ++ draft.recipients).all fitsWord =
      true) :
    Opening draft key db (create Catalog.declared draft db) := by
  have word := List.all_eq_true.mp fits
  have row : (Table.cells .directChannels (draft.row key)).integers.all fitsWord = true := by
    have same : (Table.cells .directChannels (draft.row key)).integers =
        [draft.id, draft.kind] ++ draft.ownerId.toList := by
      obtain ⟨_, _, _, ownerId, _⟩ := draft
      cases ownerId <;> cases key <;> rfl
    rw [same]
    exact List.all_eq_true.mpr fun n member => word n (List.mem_append_left _ member)
  have users : ∀ userId ∈ draft.recipients, [draft.id, userId].all fitsWord = true := by
    intro userId member
    have own := word draft.id List.mem_cons_self
    have other := word userId (List.mem_append_right _ member)
    simp [own, other]
  rw [create, named]
  have ends : Insertion Catalog.declared .directChannels (draft.row key) db
      (insertRow Catalog.declared .directChannels (draft.row key) db) := insertRow_ends row
  cases outcome : insertRow Catalog.declared .directChannels (draft.row key) db with
  | error failure =>
      have failed : inOrder (draft.statements Catalog.declared key) db = .error failure :=
        inOrder_cons_error.mpr (Or.inl outcome)
      rw [outcome] at ends
      dsimp only
      rw [failed]
      cases ends with
      | conflict taken => exact .conflict (Or.inl (taken_row.mp taken))
      | noTarget free dangling =>
          exact .noTarget ⟨mt taken_row.mpr free, Or.inl (dangling_row.mp dangling)⟩
  | ok opened =>
      rw [outcome] at ends
      dsimp only
      rw [Draft.statements, inOrder_cons_of_ok outcome]
      cases ends with
      | added free answered =>
          have start : draft.opened key db [] = db.with .directChannels (draft.row key) := by
            simp [Draft.opened, Database.with, Database.put, Database.rows]
          rw [← start]
          exact recipients_end sound (mt taken_row.mpr free) (mt dangling_row.mpr answered)
            (List.nil_append _).symm enter_nil users

theorem opening_ok {left : Database} (ends : Opening draft key db (.ok left)) :
    ¬draft.Conflicts key db ∧ ¬draft.Dangles key db ∧
      left = draft.opened key db draft.recipients := by
  cases ends with
  | opened free owned entered =>
      refine ⟨?_, ?_, rfl⟩
      · rintro (clashes | ⟨-, before, userId, after, listed, -, twice⟩)
        · exact free clashes
        · exact (enter_middle (listed ▸ entered)).1 twice
      · rintro ⟨-, lacks | ⟨before, userId, after, listed, -, -, unknown⟩⟩
        · exact owned lacks
        · exact unknown (enter_middle (listed ▸ entered)).2

/-- A creation fails with the failure of the first insertion that fails. -/
theorem create_error_iff (named : draft.pairKey? = .ok key) {failure : Failure} :
    create Catalog.declared draft db = .error failure ↔ draft.FailsFirst key db failure := by
  rw [create, named]
  refine inOrder_cons_error.trans (or_congr_right ?_)
  constructor
  · rintro ⟨opened, inserted, failed⟩
    obtain ⟨before, userId, after, middle, listed, joined, raised⟩ := inOrder_map_error.mp failed
    exact ⟨before, userId, after, middle, listed, inOrder_cons.mpr ⟨opened, inserted, joined⟩,
      raised⟩
  · rintro ⟨before, userId, after, middle, listed, entered, raised⟩
    obtain ⟨opened, inserted, joined⟩ := inOrder_cons.mp entered
    exact ⟨opened, inserted, inOrder_map_error.mpr
      ⟨before, userId, after, middle, listed, joined, raised⟩⟩

end Outcomes

end Guildhall.Directs
