import Mal.Provider.Handler

/-!
# Scripted providers

A script says, for each pattern, which actions a provider takes when it is given a message. A
pattern without actions is refused, as by a provider that does not offer it.
-/

namespace Mal

/-- What a scripted reply carries. -/
inductive Content where
  | given (body : Body)
  /-- The body of the message that is answered. -/
  | echo

/-- The body that is sent in answer to a message. -/
def Content.body (m : Message) : Content → Body
  | given body => body
  | echo => m.body

/-- A reply call of a script. -/
inductive ReplyAction where
  | acknowledge (content : Content)
  | update (content : Content)
  | respond (content : Content)
  | fail (error : StandardError)
  | failUpdate (error : StandardError)

/-- The reply call made in answer to a message. -/
def ReplyAction.call (m : Message) : ReplyAction → ReplyCall
  | acknowledge content => .acknowledge (content.body m)
  | update content => .update (content.body m)
  | respond content => .respond (content.body m)
  | fail error => .fail error
  | failUpdate error => .failUpdate error

/-- One action of a script. -/
inductive Action where
  /-- Makes a reply call. If it has to succeed, its failure is the handler's own, else the script
      goes on. -/
  | reply (action : ReplyAction) (mustSucceed : Bool)
  /-- Returns a failure. -/
  | fail (failure : Failure)
  | failNextSend
  /-- Keeps the respondent under a name. -/
  | keep (name : String)

/-- The actions taken for each pattern. -/
abbrev Script := Pattern → Option (List Action)

namespace Script

/-- The conduct of a provider that takes some actions. -/
def conduct (m : Message) : List Action → Conduct
  | [] => .finish (.ok ())
  | .reply action mustSucceed :: rest =>
    .reply (action.call m) fun result =>
      match mustSucceed, result with
      | true, some (.error failure) => .finish (.error failure)
      | _, _ => conduct m rest
  | .fail failure :: _ => .finish (.error failure)
  | .failNextSend :: rest => .failNextSend (conduct m rest)
  | .keep name :: rest => .keep name (conduct m rest)

/-- The provider that follows a script. -/
def handler (name : String) (script : Script) : Handler :=
  { name := name
    observed := fun pattern => (script pattern).isSome
    conduct := fun m =>
      match script m.header.pattern with
      | some actions => conduct m actions
      | none => Handler.refuse m }

end Script

end Mal
