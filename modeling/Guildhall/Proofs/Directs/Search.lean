import Guildhall.Proofs.Directs.Lookup
import Mathlib.Data.List.Pairwise

/-!
What is known of a search for the channel between two users in each of its phases, whatever channels
are opened meanwhile. This rests on channels that have the names of those who are in them: whoever
meets the name of the pair finds its channel.
-/

namespace Guildhall.Directs

open Calendar

/-- Every channel between two users has the name of those who are in it. -/
def Paired (db : Database) : Prop :=
  ∀ row ∈ db.directChannels, row.kind = DirectKind.pair.code →
    ∃ a b, row.pairKey = some (pairKey a b) ∧
      ∀ userId, Holds db row.id userId ↔ userId = a ∨ userId = b

def Opens (db left : Database) : Prop :=
  left = db ∨ ∃ draft, create Catalog.declared draft db = .ok left

/-- The users are as before, and so are all channels with their recipients; others may be new. -/
structure Extended (db left : Database) : Prop where
  users : left.users = db.users
  grown : Grown db left
  steady : ∀ row ∈ db.directChannels, ∀ userId, Holds left row.id userId → Holds db row.id userId

section Growth

variable {db left : Database} {a b : Int}

theorem create_users {draft : Draft} (done : create Catalog.declared draft db = .ok left) :
    left.users = db.users := by
  unfold create at done
  split at done
  · obtain ⟨middle, first, later⟩ := inOrder_cons.mp done
    obtain ⟨-, rfl, -⟩ := insertRow_ok.mp first
    obtain rfl := inOrder_recipients later
    rfl
  · cases done

theorem extended_opens (opens : Opens db left) : Extended db left := by
  rcases opens with rfl | ⟨draft, done⟩
  · exact ⟨rfl, ⟨List.Subset.refl _, List.Subset.refl _⟩, fun _ _ _ holds => holds⟩
  · obtain ⟨key, created⟩ := create_ok done
    exact ⟨create_users done, created.grown, fun row stored userId => created.steady stored⟩

theorem reachable_opens (reachable : Reachable db) (opens : Opens db left) : Reachable left := by
  rcases opens with rfl | ⟨draft, done⟩
  · exact reachable
  · let event := Write.event draft.createdAt (.createDirect draft.id draft.recipients draft.kind
      draft.ownerId draft.createdAt)
    have carried : event.apply db = left := by
      change (transact (create Catalog.declared draft) db).2 = left
      simp only [transact, done]
    exact reachable_later reachable ⟨[event], carried⟩

theorem paired_opens (sound : db.Sound Catalog.declared) (opens : Opens db left)
    (paired : Paired db) : Paired left := by
  have extended := extended_opens opens
  rcases opens with rfl | ⟨draft, done⟩
  · exact paired
  obtain ⟨key, created⟩ := create_ok done
  intro row stored pair
  rw [created.channels, List.mem_append, List.mem_singleton] at stored
  rcases stored with old | rfl
  · obtain ⟨a, b, named, alone⟩ := paired row old pair
    refine ⟨a, b, named, fun userId => Iff.trans ?_ (alone userId)⟩
    exact ⟨extended.steady row old userId, fun holds => extended.grown.recipients holds⟩
  · obtain ⟨a, b, recipients, rfl⟩ := pair_named created.named pair
    refine ⟨a, b, rfl, fun userId => ?_⟩
    have before : ¬Holds db (draft.row (some (pairKey a b))).id userId :=
      holds_fresh sound created.fresh
    rw [holds_opened created, or_iff_right before, recipients]
    simp [Draft.row]

theorem shares_extended {row : DirectChannelRow} (extended : Extended db left)
    (stored : row ∈ db.directChannels) : Shares left row a b ↔ Shares db row a b := by
  refine ⟨fun shares => ?_, shares_grown extended.grown⟩
  exact ⟨stored, shares.pair, extended.steady row stored a shares.first,
    extended.steady row stored b shares.second⟩

theorem shares_of_named (keyed : Keyed db) (paired : Paired db) {row : DirectChannelRow}
    (stored : row ∈ db.directChannels) (named : row.pairKey = some (pairKey a b)) :
    Shares db row a b := by
  have pair := keyed row stored _ named
  obtain ⟨c, d, same, alone⟩ := paired row stored pair
  rw [named, Option.some.injEq, pairKey_eq_iff] at same
  refine ⟨stored, pair, (alone a).mpr ?_, (alone b).mpr ?_⟩
  · exact same.imp And.left And.left
  · exact (same.imp And.right And.right).symm

theorem same_of_name (sound : db.Sound Catalog.declared) {first second : DirectChannelRow}
    {name : String} (storedFirst : first ∈ db.directChannels)
    (storedSecond : second ∈ db.directChannels) (namedFirst : first.pairKey = some name)
    (namedSecond : second.pairKey = some name) : first = second := by
  have names := List.pairwise_filterMap.mp (consistent_of_sound sound).pairKeys
  have symmetric : Std.Symm fun one other : DirectChannelRow =>
      ∀ here, one.pairKey = some here → ∀ there, other.pairKey = some there → here ≠ there :=
    ⟨fun _ _ apart there second here first same => apart here first there second same.symm⟩
  by_contra differ
  exact names.forall storedFirst storedSecond differ name namedFirst name namedSecond rfl

theorem lone_of_paired (sound : db.Sound Catalog.declared) (paired : Paired db) :
    LonePairs db := by
  intro a b apart first second sharesFirst sharesSecond
  have name : ∀ {row : DirectChannelRow}, Shares db row a b → row.pairKey = some (pairKey a b) := by
    intro row shares
    obtain ⟨c, d, named, alone⟩ := paired row shares.stored shares.pair
    have inside := pairKey_within apart ((alone a).mp shares.first) ((alone b).mp shares.second)
    rw [named, inside]
  exact same_of_name sound sharesFirst.stored sharesSecond.stored (name sharesFirst)
    (name sharesSecond)

end Growth

/-- Why a search for the channel of two users may fail. -/
inductive Excuse (db : Database) (a b id : Int) : Failure → Prop where
  | sameUser (same : a = b) : Excuse db a b id .sameUser
  | unknown (unknown : (∀ user ∈ db.users, user.id ≠ a) ∨ ∀ user ∈ db.users, user.id ≠ b) :
      Excuse db a b id (.store .noTarget)
  | large (large : ¬(fitsWord a = true ∧ fitsWord b = true ∧ fitsWord id = true)) :
      Excuse db a b id .tooLarge
  | taken {failure : Failure} {row : DirectChannelRow} (conflict : failure.isConflict = true)
      (stored : row ∈ db.directChannels) (same : row.id = id) (other : ¬Shares db row a b) :
      Excuse db a b id failure

/-- What is known of a search in each of its phases. -/
inductive Progress (db : Database) (a b id : Int) : Phase → Prop where
  | lookup : Progress db a b id .lookup
  | create (fits : fitsWord a = true ∧ fitsWord b = true) : Progress db a b id .create
  /-- The channel of the pair is there, or another one has the identifier. -/
  | lost {conflict : Failure} (met : (∃ row, Shares db row a b) ∨ Excuse db a b id conflict) :
      Progress db a b id (.lost conflict)
  | readBack {row : DirectChannelRow} (shares : Shares db row a b) (same : row.id = id)
      (fits : fitsWord id = true) : Progress db a b id .readBack
  | found {channel : DirectChannel} {row : DirectChannelRow} (shares : Shares db row a b)
      (same : row.id = channel.id) : Progress db a b id (.done (.ok channel))
  | failed {failure : Failure} (excuse : Excuse db a b id failure) :
      Progress db a b id (.done (.error failure))

section Searches

variable {db left : Database} {a b id : Int} {phase : Phase}

theorem excuse_extended {failure : Failure} (extended : Extended db left)
    (excuse : Excuse db a b id failure) : Excuse left a b id failure := by
  cases excuse with
  | sameUser same => exact .sameUser same
  | unknown unknown => exact .unknown (by rwa [extended.users])
  | large large => exact .large large
  | taken conflict stored same other =>
      refine .taken conflict (extended.grown.channels stored) same ?_
      rwa [shares_extended extended stored]

theorem progress_extended (extended : Extended db left) (progress : Progress db a b id phase) :
    Progress left a b id phase := by
  cases progress with
  | lookup => exact .lookup
  | create fits => exact .create fits
  | lost met =>
      refine .lost (met.imp ?_ (excuse_extended extended))
      rintro ⟨row, shares⟩
      exact ⟨row, shares_grown extended.grown shares⟩
  | readBack shares same fits => exact .readBack (shares_grown extended.grown shares) same fits
  | found shares same => exact .found (shares_grown extended.grown shares) same
  | failed excuse => exact .failed (excuse_extended extended excuse)

theorem progress_lookup (absent : fitsWord a = true ∧ fitsWord b = true →
    (∀ row, ¬Shares db row a b) → Progress db a b id phase) :
    Progress db a b id (Finder.afterLookup (between a b db) phase) := by
  by_cases fits : fitsWord a = true ∧ fitsWord b = true
  · rcases between_cases db fits.1 fits.2 with ⟨looked, alone⟩ | ⟨row, oldest, looked⟩
    · rw [looked]
      exact absent fits alone
    · rw [looked]
      exact .found oldest.shares rfl
  · rw [between_large db fits]
    exact .failed (.large fun all => fits ⟨all.1, all.2.1⟩)

/-- A creation that fails: in a conflict the channel of the pair is there already, or the identifier
is taken, and all other failures are excused. -/
theorem progress_refused {failure : Failure} (keyed : Keyed db) (paired : Paired db)
    (obstacle : Obstacle db a b id failure) : Progress db a b id
      (if failure.isConflict then .lost failure else .done (.error failure)) := by
  cases obstacle with
  | large large => exact .failed (.large large)
  | unknown unknown => exact .failed (.unknown unknown)
  | idTaken conflict taken =>
      obtain ⟨row, stored, same⟩ := taken
      rw [if_pos conflict]
      by_cases shares : Shares db row a b
      · exact .lost (Or.inl ⟨row, shares⟩)
      · exact .lost (Or.inr (.taken conflict stored same shares))
  | nameTaken conflict taken =>
      obtain ⟨row, stored, named⟩ := taken
      rw [if_pos conflict]
      exact .lost (Or.inl ⟨row, shares_of_named keyed paired stored named⟩)

/-- One transaction of a search, in whatever state the others have left the tables. -/
theorem search_step (reachable : Reachable db) (paired : Paired db) (apart : a ≠ b)
    (progress : Progress db a b id phase) (now : DateTime) :
    ∃ next left, Finder.step Catalog.declared now ⟨a, b, id, phase⟩ db = (⟨a, b, id, next⟩, left) ∧
      Opens db left ∧ Progress left a b id next := by
  have sound := reachable_sound reachable
  cases progress with
  | lookup =>
      exact ⟨_, db, Finder.step_lookup, Or.inl rfl, progress_lookup fun fits _ => .create fits⟩
  | create fits =>
      cases done : create Catalog.declared (opening a b id now) db with
      | error failure =>
          refine ⟨_, db, Finder.step_create_error done, Or.inl rfl, ?_⟩
          exact progress_refused (reachable_keyed reachable) paired
            (create_error sound apart fits done)
      | ok left =>
          have created := created_opening done
          refine ⟨_, left, Finder.step_create_ok done, Or.inr ⟨_, done⟩, ?_⟩
          exact .readBack (shares_opening sound created) rfl created.fits
  | @lost conflict met =>
      refine ⟨_, db, Finder.step_lost, Or.inl rfl, progress_lookup fun _ alone => ?_⟩
      rcases met with ⟨row, shares⟩ | excuse
      · exact absurd shares (alone row)
      · exact .failed excuse
  | @readBack row shares same fits =>
      subst same
      have read := find_stored sound shares.stored shares.pair fits
      refine ⟨_, db, Finder.step_readBack, Or.inl rfl, ?_⟩
      rw [read]
      exact .found shares rfl
  | found shares same => exact ⟨_, db, Finder.step_done, Or.inl rfl, .found shares same⟩
  | failed excuse => exact ⟨_, db, Finder.step_done, Or.inl rfl, .failed excuse⟩

end Searches

end Guildhall.Directs
