import Guildhall.Settings.Basic
import Guildhall.Store.Demo

/-!
The lines of the log. Every part of the program writes under its own name.
-/

namespace Guildhall.Program

inductive LogSource where
  | program
  | connection
  | demo
  | users
  | guilds
  | channels
  | messages
  | errors
  deriving DecidableEq, Repr

def LogSource.name : LogSource → String
  | .program => "retrocast"
  | .connection => "retrocast.database.engine"
  | .demo => "retrocast.database.seed"
  | .users => "retrocast.stores.user_store"
  | .guilds => "retrocast.stores.guild_store"
  | .channels => "retrocast.stores.channel_store"
  | .messages => "retrocast.stores.message_store"
  | .errors => "retrocast.errors"

structure LogLine where
  level : LogLevel
  source : LogSource
  text : String
  deriving DecidableEq, Repr

namespace LogLine

def isKept (least : LogLevel) (line : LogLine) : Bool := least.weight ≤ line.level.weight

def connected (target : Option String) : LogLine :=
  ⟨.info, .connection, "Database engine created → " ++ target.getD "None"⟩

def tablesReady : LogLine := ⟨.info, .connection, "Database tables verified / created."⟩

/-- The line of a write that went through; only the creation of some entities leaves one. -/
def ofWrite? : Write → Option LogLine
  | .createUser user => some ⟨.debug, .users, s!"User created: id={user.id}"⟩
  | .createGuild guild =>
    some ⟨.debug, .guilds, s!"Guild created: id={guild.id} owner={guild.ownerId}"⟩
  | .createMember member =>
    some ⟨.debug, .guilds, s!"Member created: guild={member.guildId} user={member.userId}"⟩
  | .createChannel channel =>
    some ⟨.debug, .channels, s!"Channel created: id={channel.id} guild={channel.guildId}"⟩
  | .createMessage message =>
    some ⟨.debug, .messages, s!"Message created: id={message.id} channel={message.channelId}"⟩
  | _ => none

/-- Conflicts and an unavailable storage are noted where they arise. -/
def ofError? (error : StoreError) : Option LogLine :=
  match error with
  | .conflict .. => some ⟨.info, .errors, "Conflict: " ++ error.message⟩
  | .unavailable _ => some ⟨.warning, .errors, "Storage unavailable: " ++ error.message⟩
  | .invalidReference _ | .other _ => none

def failed (command : String) (error : StoreError) : LogLine :=
  ⟨.error, .program, "Command " ++ command ++ " failed: " ++ error.message⟩

def seeded (guild : Int) : LogLine :=
  ⟨.info, .demo, s!"Seeded demo guild {guild} with 2 users and {Demo.contents.length} messages."⟩

def alreadySeeded : LogLine := ⟨.info, .demo, "Demo data already present, skipping seed."⟩

def badSettings (fault : SettingFault) : LogLine := ⟨.critical, .program, fault.message⟩

end LogLine

end Guildhall.Program
