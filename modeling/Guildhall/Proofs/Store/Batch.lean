import Guildhall.Store.Directs
import Guildhall.Store.Members
import Guildhall.Proofs.Store.Consistency
import Guildhall.Proofs.Store.Question

/-!
Rows read at once for many keys. Under each key stands what would have been read for it alone, so a
list of members or direct channels shows each of them as it is shown by itself.
-/

namespace Guildhall

section Groups

theorem grouped_eq {α : Type} (pairs : List (Int × α)) (key : Int) :
    grouped pairs key = (pairs.filter fun pair => pair.1 = key).map Prod.snd := by
  have onward : ∀ lists : Int → List α, pairs.foldl (fun lists pair key =>
      if key = pair.1 then lists key ++ [pair.2] else lists key) lists key =
        lists key ++ (pairs.filter fun pair => pair.1 = key).map Prod.snd := by
    induction pairs with
    | nil => simp
    | cons pair rest ih =>
        intro lists
        rw [List.foldl_cons, ih]
        by_cases same : pair.1 = key
        · simp [same]
        · simp [same, Ne.symm same]
  simpa [grouped] using onward fun _ => []

theorem filter_tagged {α β : Type} (rows : List α) (key : α → Int) (inner : α → List β)
    (tag : Int) : ((rows.flatMap fun row => (inner row).map fun value => (key row, value)).filter
        fun pair => pair.1 = tag) =
      ((rows.filter fun row => key row = tag).flatMap inner).map fun value => (tag, value) := by
  induction rows with
  | nil => rfl
  | cons row rest ih =>
      rw [List.flatMap_cons, List.filter_append, ih]
      by_cases same : key row = tag
      · simp [same]
      · simp [same, List.filter_map, Function.comp_def]

theorem ids_joined {α β : Type} {targets : List β} {id : β → Int}
    (distinct : (targets.map id).Nodup) {rows : List α} {key : α → Int}
    (answered : ∀ row ∈ rows, ∃ target ∈ targets, id target = key row) :
    (rows.flatMap fun row => targets.filter fun target => id target = key row).map id =
      rows.map key := by
  induction rows with
  | nil => rfl
  | cons row rest ih =>
      obtain ⟨target, stored, same⟩ := answered row List.mem_cons_self
      have alone : targets.filter (fun other => id other = key row) = [target] :=
        same ▸ filter_alone distinct stored
      rw [List.flatMap_cons, alone, List.map_append, List.map_cons, List.map_cons, same,
        ih fun other member => answered other (List.mem_cons_of_mem _ member)]
      rfl

theorem nodup_part {α κ : Type} {rows : List α} {key : α → κ} {part : α → Int}
    (distinct : (rows.map key).Nodup) (chosen : α → Bool)
    (whole : ∀ a b, chosen a = true → chosen b = true → part a = part b → key a = key b) :
    ((rows.filter chosen).map part).Nodup := by
  have keys : (rows.filter chosen).Pairwise fun a b => key a ≠ key b :=
    (List.pairwise_map.mp distinct).sublist List.filter_sublist
  refine List.pairwise_map.mpr (keys.imp_of_mem fun first second apart same => apart ?_)
  exact whole _ _ (List.mem_filter.mp first).2 (List.mem_filter.mp second).2 same

theorem mapM_alike {α β : Type} {read other : α → Except Failure β} {rows : List α}
    (alike : ∀ row ∈ rows, read row = other row) : rows.mapM read = rows.mapM other := by
  induction rows with
  | nil => rfl
  | cons row rest ih =>
      rw [List.mapM_cons, List.mapM_cons, alike row List.mem_cons_self,
        ih fun row member => alike row (List.mem_cons_of_mem _ member)]

/-- What is read for many keys in one order is, under each key, what is read for it alone. -/
theorem grouped_sorted {α β γ : Type} {order : Int × β → Int × β → Ordering}
    {alone : β → β → Ordering} [Std.TransCmp order] (tag : Int)
    (alike : ∀ a b, order (tag, a) (tag, b) = alone a b) (rows : List α) (key : α → Int)
    (inner : α → List β) (shown : β → γ) :
    grouped ((sortBy order (rows.flatMap fun row => (inner row).map fun value =>
        (key row, value))).map fun pair => (pair.1, shown pair.2)) tag =
      (sortBy alone ((rows.filter fun row => key row = tag).flatMap inner)).map shown := by
  let tagged := rows.flatMap fun row => (inner row).map fun value => (key row, value)
  let mine := (rows.filter fun row => key row = tag).flatMap inner
  -- The sort is stable, so it does not matter whether the key is chosen before or after it.
  calc grouped ((sortBy order tagged).map fun pair => (pair.1, shown pair.2)) tag
      = ((sortBy order tagged).filter fun pair => pair.1 = tag).map fun pair => shown pair.2 := by
        rw [grouped_eq, List.filter_map, List.map_map]
        rfl
    _ = (sortBy order (mine.map fun value => (tag, value))).map fun pair => shown pair.2 := by
        rw [filter_sortBy, filter_tagged]
    _ = (sortBy alone mine).map shown := by
        rw [sortBy_map _ alike, List.map_map]
        rfl

end Groups

namespace Members

theorem roleIdsByUser_eq (db : Database) {guildId userId : Int} {userIds : List Int}
    (among : userId ∈ userIds) :
    roleIdsByUser db guildId userIds userId = (Roles.heldBy db guildId userId).map Role.id := by
  have held : ((db.memberRoles.filter fun row =>
        row.guildId = guildId && userIds.contains row.userId).filter fun row =>
          row.userId = userId) =
      db.memberRoles.filter fun row => row.guildId = guildId ∧ row.userId = userId := by
    rw [List.filter_filter]
    refine List.filter_congr fun row _ => ?_
    by_cases same : row.userId = userId
    · simp [same, among]
    · simp [same]
  refine (grouped_sorted userId (fun _ _ => rfl) _ MemberRoleRow.userId _ Role.id).trans ?_
  rw [held]
  rfl

theorem withRoles_eq (db : Database) (row : MemberRow) :
    withRoles db row = row.member ((Roles.heldBy db row.guildId row.userId).map Role.id) := by
  rw [withRoles, roleIdsByUser_eq db (List.mem_singleton_self _)]

theorem mem_page {db : Database} {guildId limit offset : Int} {row : MemberRow}
    (shown : row ∈ page db guildId limit offset) : row ∈ db.members ∧ row.guildId = guildId := by
  have listed := (sortBy_perm order _).mem_iff.mp
    (List.mem_of_mem_drop (List.mem_of_mem_take shown))
  simpa using List.mem_filter.mp listed

theorem ofGuild_eq (engine : Engine) (guildId limit offset : Int) :
    ofGuild engine guildId limit offset = limited limit fun db =>
      if offset < 0 then .error (.showing offset (.negativeOffset offset))
      else askRead [guildId, limit, offset] (fun db =>
        (engine.allow 1 (page db guildId limit offset).length).map fun _ =>
          (page db guildId limit offset).map (withRoles db)) db := by
  have alike : ∀ db, ((page db guildId limit offset).map fun row => row.member
      (roleIdsByUser db guildId ((page db guildId limit offset).map MemberRow.userId)
        row.userId)) = (page db guildId limit offset).map (withRoles db) := by
    refine fun db => List.map_congr_left fun row member => ?_
    rw [withRoles_eq, roleIdsByUser_eq db (List.mem_map_of_mem member), (mem_page member).2]
  unfold ofGuild
  simp only [alike]
  rfl

end Members

namespace Directs

theorem recipientsByChannel_eq (db : Database) {channelId : Int} {channelIds : List Int}
    (among : channelId ∈ channelIds) : recipientsByChannel db channelIds channelId =
      (sortBy (compareOn UserRow.id)
        ((db.recipients.filter fun row => row.channelId = channelId).flatMap fun recipient =>
          db.users.filter fun row => row.id = recipient.userId)).map UserRow.user := by
  have listed : ((db.recipients.filter fun row => channelIds.contains row.channelId).filter
        fun row => row.channelId = channelId) =
      db.recipients.filter fun row => row.channelId = channelId := by
    rw [List.filter_filter]
    refine List.filter_congr fun row _ => ?_
    by_cases same : row.channelId = channelId
    · simp [same, among]
    · simp [same]
  have alike : ∀ a b : UserRow, compareLex (compareOn Prod.fst)
      (compareOn fun pair : Int × UserRow => pair.2.id) (channelId, a) (channelId, b) =
        compareOn UserRow.id a b := by
    intro a b
    simp [compareLex, compareOn]
  rw [← listed]
  exact grouped_sorted channelId alike _ RecipientRow.channelId _ UserRow.user

theorem recipientsOf_eq (db : Database) (channelId : Int) : recipientsOf db channelId =
    (sortBy (compareOn UserRow.id)
      ((db.recipients.filter fun row => row.channelId = channelId).flatMap fun recipient =>
        db.users.filter fun row => row.id = recipient.userId)).map UserRow.user :=
  recipientsByChannel_eq db (List.mem_singleton_self _)

theorem ofUser_eq (engine : Engine) (userId : Int) :
    ofUser engine userId = askRead [userId] fun db =>
      (engine.allow 0 (rowsOf db userId).length).bind fun _ =>
        (rowsOf db userId).mapM (withRecipients db) := by
  have alike : ∀ db, ((rowsOf db userId).mapM fun row => row.channel
      (recipientsByChannel db ((rowsOf db userId).map DirectChannelRow.id) row.id)) =
        (rowsOf db userId).mapM (withRecipients db) := by
    refine fun db => mapM_alike fun row member => ?_
    rw [withRecipients, recipientsOf, recipientsByChannel_eq db (List.mem_map_of_mem member),
      recipientsByChannel_eq db (List.mem_singleton_self _)]
  unfold ofUser
  simp only [alike]
  rfl

end Directs

end Guildhall
