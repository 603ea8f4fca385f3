import Guildhall.Proofs.Store.Question
import Guildhall.Proofs.Store.Consistency
import Guildhall.Proofs.Store.Readable

/-!
When an invitation that was stored expires. The table keeps what the wall showed and drops the
offset, and the invitation that is read back takes the wall for universal time. It expires with the
one that was handed over unless the time asked for lies between the two.
-/

namespace Guildhall.Invites

open Calendar

def readBack (invite : Invite) : Invite :=
  { invite with
    expiresAt := invite.expiresAt.map fun expiry => expiry.wall.naive
    createdAt := invite.createdAt.wall.naive }

theorem find_create {invite : Invite} {db left : Database}
    (done : create Catalog.declared invite db = .ok left) :
    find invite.code left = .ok (some (readBack invite)) := by
  have names : ∀ other : InviteRow, decide (other.code = invite.code) = true ↔
      Table.identity .invites other = Table.identity .invites invite.row := by
    intro other
    simp [Table.identity, Invite.row]
  have found : left.invites.find? (fun row => row.code = invite.code) = some invite.row :=
    find_insertRow done names
  have fits : fitsWord invite.uses = true := fits_uses (insertRow_ok.mp done).1
  have read : InviteRow.invite invite.row = .ok (readBack invite) := by
    have counted : storedCount .invite "uses" invite.uses = .ok invite.uses := if_pos fits
    rw [InviteRow.invite]
    change (storedCount .invite "uses" invite.uses).map _ = _
    rw [counted]
    simp [Except.map, readBack, Invite.row, Option.map_map, Function.comp_def]
  have small : ([] : List Int).all fitsWord = true := rfl
  rw [find, askRead_fits small, found, Option.mapM_some, read]
  rfl

/-- The time is one of those from the earlier of two times up to the later one. -/
def Between (a b now : Instant) : Prop := min a b ≤ now ∧ now < max a b

theorem due_iff_not_between {a b now : Instant} : (a ≤ now ↔ b ≤ now) ↔ ¬Between a b now := by
  unfold Between Instant
  omega

theorem eq_of_never_between {a b : Instant} (first : ¬Between a b a) (second : ¬Between a b b) :
    a = b := by
  unfold Between at first second
  unfold Instant at *
  omega

theorem instant_naive (wall : WallTime) : wall.naive.instant = wall.ticks := by
  simp [DateTime.instant, WallTime.naive]

theorem instant_eq_ticks {t : DateTime} : t.wall.ticks = t.instant ↔ t.offset.getD 0 = 0 := by
  have shifted : t.instant = t.wall.ticks - t.offset.getD 0 * 60000000 := rfl
  rw [shifted]
  unfold Instant at *
  omega

/-- After one of what the clock of its offset and the clock of universal time show, and before the
other, an expiry has passed for one of the two invitations only. -/
theorem expired_readBack_iff {invite : Invite} {now : DateTime} :
    (readBack invite).isExpired now = invite.isExpired now ↔
      ∀ expiry ∈ invite.expiresAt, ¬Between expiry.wall.ticks expiry.instant now.instant := by
  cases given : invite.expiresAt with
  | none => simp [Invite.isExpired, readBack, given]
  | some expiry => simp [Invite.isExpired, readBack, given, instant_naive, due_iff_not_between]

/-- The two expire together at all times exactly if no offset was dropped. -/
theorem always_expired_iff {invite : Invite} :
    (∀ now, (readBack invite).isExpired now = invite.isExpired now) ↔
      ∀ expiry ∈ invite.expiresAt, expiry.offset.getD 0 = 0 := by
  simp only [expired_readBack_iff]
  constructor
  · intro together expiry given
    have atWall := together expiry.wall.naive expiry given
    have atExpiry := together expiry expiry given
    rw [instant_naive] at atWall
    exact instant_eq_ticks.mp (eq_of_never_between atWall atExpiry)
  · intro dropped now expiry given
    rw [instant_eq_ticks.mpr (dropped expiry given)]
    exact due_iff_not_between.mp Iff.rfl

/-- An invitation that was stored is found by its code whenever it is asked for. The one found and
the one handed over are expired alike unless the time asked for lies between what the wall showed,
taken for universal time, and the expiry itself. At all times they are alike exactly if the expiry
is open, naive or given in universal time. -/
theorem expiry_kept_iff (invite : Invite) (now : DateTime) (db left : Database)
    (created : Command.run Catalog.declared now (.write (.createInvite invite)) db =
      (.ok .done, left)) :
    ∃ found : Invite,
      (∀ later, Command.run Catalog.declared later (.question (.invite invite.code)) left =
        (.ok (.entity (some (.invite found))), left)) ∧
      (∀ asked, found.isExpired asked = invite.isExpired asked ↔
        ∀ expiry ∈ invite.expiresAt,
          ¬Between expiry.wall.ticks expiry.instant asked.instant) ∧
      ((∀ asked, found.isExpired asked = invite.isExpired asked) ↔
        ∀ expiry ∈ invite.expiresAt, expiry.offset.getD 0 = 0) := by
  have done : create Catalog.declared invite db = .ok left := by
    simp only [Command.run, transact, Write.statement] at created
    cases outcome : create Catalog.declared invite db with
    | error failure =>
        rw [outcome] at created
        cases created
    | ok stored =>
        rw [outcome] at created
        cases created
        rfl
  refine ⟨readBack invite, fun later => ?_, fun asked => expired_readBack_iff, always_expired_iff⟩
  change (Question.one .invite (find invite.code) left, left) = _
  rw [Question.one, find_create done]
  rfl

def welcoming : Run := [
  .createUser ⟨1, "ada", "Ada", none, "", noon⟩,
  .createGuild ⟨10, "guild", none, 1, noon⟩].map (Write.event noon)

def untilNoon (offset : Option Int) : Invite :=
  ⟨"abc", 10, none, 1, 0, 0, some ⟨noon.wall, offset⟩, noon⟩

theorem universal_expires_alike :
    let call := Command.run Catalog.declared noon (.write (.createInvite (untilNoon (some 0))))
      (welcoming.after .empty)
    call.1 = .ok .done ∧ ∃ found : Invite,
      (Command.run Catalog.declared noon (.question (.invite "abc")) call.2).1 =
        .ok (.entity (some (.invite found))) ∧
      ∀ asked, found.isExpired asked = (untilNoon (some 0)).isExpired asked := by
  intro call
  have done : call.1 = .ok .done := by decide +kernel
  have created : call = (.ok .done, call.2) := Prod.ext done rfl
  obtain ⟨found, answered, -, alike⟩ :=
    expiry_kept_iff (untilNoon (some 0)) noon (welcoming.after .empty) call.2 created
  refine ⟨done, found, congrArg Prod.fst (answered noon), alike.mpr ?_⟩
  rintro expiry given
  cases given
  rfl

/-- Noon in the east is half past six in universal time, but the invitation that is found is good
until noon in universal time. -/
theorem easterly_expires_late :
    let call := Command.run Catalog.declared noon (.write (.createInvite (untilNoon (some 330))))
      (welcoming.after .empty)
    let asked : DateTime := ⟨⟨2026, 3, 1, 7, 0, 0, 0⟩, some 0⟩
    call.1 = .ok .done ∧ (untilNoon (some 330)).isExpired asked = true ∧ ∃ found : Invite,
      (Command.run Catalog.declared noon (.question (.invite "abc")) call.2).1 =
        .ok (.entity (some (.invite found))) ∧
      found.isExpired asked = false := by
  intro call asked
  refine ⟨by decide +kernel, by decide +kernel, readBack (untilNoon (some 330)), ?_, ?_⟩ <;>
    decide +kernel

end Guildhall.Invites
