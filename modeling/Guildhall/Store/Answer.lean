import Guildhall.Entity.Serialized
import Guildhall.Store.Finder

/-!
The answers of the stores and their JSON form.
-/

namespace Guildhall

inductive Entity where
  | user (user : User)
  | guild (guild : Guild)
  | member (member : Member)
  | role (role : Role)
  | ban (ban : Ban)
  | invite (invite : Invite)
  | channel (channel : Channel)
  | override (override : ChannelOverride)
  | message (message : MessageWithAuthor)
  | attachment (attachment : Attachment)
  | reaction (reaction : Reaction)
  | reactionCount (count : ReactionCount)
  | direct (channel : DirectChannel)
  | readState (state : ReadState)
  | voiceState (state : VoiceState)
  deriving DecidableEq, Repr

def Entity.toJson : Entity → Json
  | .user it => it.toJson
  | .guild it => it.toJson
  | .member it => it.toJson
  | .role it => it.toJson
  | .ban it => it.toJson
  | .invite it => it.toJson
  | .channel it => it.toJson
  | .override it => it.toJson
  | .message it => it.toJson
  | .attachment it => it.toJson
  | .reaction it => it.toJson
  | .reactionCount it => it.toJson
  | .direct it => it.toJson
  | .readState it => it.toJson
  | .voiceState it => it.toJson

inductive Answer where
  | done
  | flag (value : Bool)
  | count (value : Nat)
  | ids (values : List Int)
  | entity (found : Option Entity)
  | entities (found : List Entity)
  deriving DecidableEq, Repr

def Answer.toJson : Answer → Json
  | .done => .null
  | .flag value => .flag value
  | .count value => .whole value
  | .ids values => .list (values.map .ofId)
  | .entity found => .ofOption Entity.toJson found
  | .entities found => .list (found.map Entity.toJson)

/-- A search for a channel ends after its last transaction; before it there is no answer. -/
def Directs.Finder.answer (finder : Finder) : Except Failure Answer :=
  match finder.phase with
  | .done outcome => outcome.map fun channel => .entity (some (.direct channel))
  | _ => .ok .done

end Guildhall
