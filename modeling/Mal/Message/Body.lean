import Mal.Message.Header
import Mal.Message.StandardError

/-!
# Message bodies

Operation payloads stay opaque: a body is only told apart by its shape, because that is all that
routing needs to know.
-/

namespace Mal

/-- Names what an update is about, by up to four sub-keys. -/
structure EntityKey where
  first : Option String := none
  second : Option UInt64 := none
  third : Option UInt64 := none
  fourth : Option UInt64 := none
  deriving DecidableEq

/-- A key with only its first sub-key. -/
def EntityKey.named (first : String) : EntityKey :=
  { first := some first }

/-- What a subscriber asks a broker for. -/
structure Subscription where
  id : String
  entities : List EntityKey
  deriving DecidableEq

/-- What happened to the entity an update is about. -/
inductive UpdateKind where
  | creation
  | update
  | modification
  | deletion
  deriving DecidableEq

instance : Enumeration UpdateKind where
  title := "UpdateType"
  values := [.creation, .update, .modification, .deletion]
  name
    | .creation => "Creation"
    | .update => "Update"
    | .modification => "Modification"
    | .deletion => "Deletion"
  number
    | .creation => 1
    | .update => 2
    | .modification => 3
    | .deletion => 4

structure UpdateHeader where
  timestamp : UInt64
  sourceUri : String
  kind : UpdateKind
  key : EntityKey
  deriving DecidableEq

/-- One published value. -/
structure Update where
  header : UpdateHeader
  value : Bytes
  deriving DecidableEq

/-- Updates that a broker passes on to one subscription. -/
structure Notification where
  subscriptionId : String
  updates : List Update
  deriving DecidableEq

/-- Body of a message. -/
inductive Body where
  | empty
  | elements (elements : List Bytes)
  | subscription (subscription : Subscription)
  | entityKeys (keys : List EntityKey)
  | updates (updates : List Update)
  | notify (notification : Notification)
  | identifiers (ids : List String)
  | error (error : StandardError)
  deriving DecidableEq

namespace Body

/-- Name of a body's shape in error texts. -/
def shape : Body → String
  | empty => "empty"
  | elements _ => "elements"
  | subscription _ => "subscription"
  | entityKeys _ => "entity-key-list"
  | updates _ => "update-list"
  | notify _ => "notify"
  | identifiers _ => "identifier-list"
  | error _ => "error"

/-- The error that a body carries. -/
def error? : Body → Option StandardError
  | error e => some e
  | _ => none

end Body

end Mal
