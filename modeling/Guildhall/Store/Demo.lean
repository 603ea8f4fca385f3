import Guildhall.Store.Storage
import Guildhall.Snowflake.Generator

/-!
A small community to begin with: two users, their guild with two channels and one role for
everyone, and a few messages. Where the owner's account exists nothing is written. Every write is a
transaction of its own, and every identifier is drawn just before it is needed.
-/

namespace Guildhall.Demo

open Calendar Snowflake

inductive Slot where
  | owner
  | guest
  | guild
  | general
  | random
  | everyone
  | message
  deriving DecidableEq, Repr

def ownerName : String := "alice"
def guestName : String := "bob"

def Slot.name? : Slot → Option String
  | .owner => some ownerName
  | .guest => some guestName
  | .guild => some "guild"
  | .general => some "general"
  | .random => some "random"
  | .everyone => some "everyone"
  | .message => none

abbrev Drawn := List (Slot × Int)

def Drawn.id (drawn : Drawn) (slot : Slot) : Int := (drawn.lookup slot).getD 0

/-- To see channels, send messages, connect, speak, read the history, invite, and change one's
nickname. -/
def everyonePermissions : Int :=
  [0, 1, 8, 9, 15, 16, 17].foldl (fun total bit => total + Nat.pow 2 bit) 0

def placeholderHash : String := "!"

inductive Step where
  | draw (slot : Slot)
  | write (make : DateTime → Drawn → Write)

def account (slot : Slot) (username displayName : String) : List Step := [
  .draw slot,
  .write fun now drawn =>
    .createUser ⟨drawn.id slot, username, displayName, none, placeholderHash, now⟩]

def community : List Step := [
  .draw .guild,
  .write fun now drawn =>
    .createGuild ⟨drawn.id .guild, "Retrocast Demo", none, drawn.id .owner, now⟩]

def channel (slot : Slot) (name : String) (position : Int) : List Step := [
  .draw slot,
  .write fun _ drawn =>
    .createChannel ⟨drawn.id slot, drawn.id .guild, name, .text, position, none, none⟩]

def everyone : List Step := [
  .draw .everyone,
  .write fun _ drawn =>
    .createRole ⟨drawn.id .everyone, drawn.id .guild, "@everyone", 0, everyonePermissions, 0,
      true⟩]

def membership (slot : Slot) : List Step := [
  .write fun now drawn => .createMember ⟨drawn.id .guild, drawn.id slot, none, now, []⟩,
  .write fun _ drawn => .addMemberRole (drawn.id .guild) (drawn.id slot) (drawn.id .everyone)]

def message (author : Slot) (content : String) : List Step := [
  .draw .message,
  .write fun now drawn =>
    .createMessage ⟨drawn.id .message, drawn.id .general, drawn.id author, content, now, none⟩]

def contents : List (Slot × String) := [
  (.owner, "Welcome to the demo guild!"),
  (.guest, "Thanks, glad to be here."),
  (.owner, "Say hi in #random too.")]

def steps : List Step :=
  account .owner ownerName "Alice" ++ account .guest guestName "Bob" ++ community ++
    channel .general "general" 0 ++ channel .random "random" 1 ++ everyone ++
    membership .owner ++ membership .guest ++
    contents.flatMap fun (author, content) => message author content

inductive Stop where
  | store (failure : Failure)
  /-- The clock gave no further reading. -/
  | clock
  deriving DecidableEq, Repr

structure Progress where
  storage : Storage
  generator : Generator
  readings : List Int
  drawn : Drawn
  written : List Write
  deriving DecidableEq, Repr

def Progress.take (now : DateTime) (progress : Progress) : Step → Except Stop Unit × Progress
  | .draw slot =>
    match progress.generator.advance progress.readings with
    | none => (.error .clock, progress)
    | some (generator, readings) =>
      (.ok (), { progress with
        generator := generator
        readings := readings
        drawn := (slot, generator.id) :: progress.drawn })
  | .write make =>
    let write := make now progress.drawn
    match progress.storage.run now (.write write) with
    | (.ok _, storage) =>
      (.ok (), { progress with storage := storage, written := write :: progress.written })
    | (.error failure, storage) => (.error (.store failure), { progress with storage := storage })

def takeAll (now : DateTime) : List Step → Progress → Except Stop Unit × Progress
  | [], progress => (.ok (), progress)
  | step :: rest, progress =>
    match progress.take now step with
    | (.ok (), progress) => takeAll now rest progress
    | (.error stop, progress) => (.error stop, progress)

/-- Writes the community unless it is there. The identifiers are those that were drawn. -/
def populate (now : DateTime) (generator : Generator) (readings : List Int) (storage : Storage) :
    Except Stop (Option Drawn) × Progress :=
  let progress : Progress := ⟨storage, generator, readings, [], []⟩
  match storage.run now (.question (.userByName ownerName)) with
  | (.error failure, _) => (.error (.store failure), progress)
  | (.ok (.entity (some _)), _) => (.ok none, progress)
  | (.ok _, _) =>
    let (outcome, progress) := takeAll now steps progress
    (outcome.map fun _ => some progress.drawn, progress)

def seed (now : DateTime) (node : Node) (readings : List Int) (storage : Storage) :
    Except Stop (Option Drawn) × Progress :=
  populate now (.fresh node) readings storage

def Drawn.report (drawn : Drawn) : List (String × Int) :=
  drawn.reverse.filterMap fun (slot, id) => slot.name?.map fun name => (name, id)

end Guildhall.Demo
