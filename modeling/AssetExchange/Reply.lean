import AssetExchange.Error
import AssetExchange.Log.Message

/-!
# Requests and replies

A request to something with a state yields an answer, the next state and the
messages sent to the host's log on the way, in order. Requests compose: the messages
of the second follow those of the first.
-/

namespace AssetExchange

/-- The answer to a request, the state after it and the messages sent meanwhile. -/
structure Reply (sigma alpha : Type) where
  answer : alpha
  state : sigma
  /-- What was sent to the log, in order. -/
  messages : List LogMessage

/-- A request to something with a state. -/
abbrev Request (sigma alpha : Type) := sigma → Reply sigma alpha

namespace Reply

variable {sigma tau alpha beta : Type}

def map (change : alpha → beta) (reply : Reply sigma alpha) : Reply sigma beta :=
  ⟨change reply.answer, reply.state, reply.messages⟩

def mapState (change : sigma → tau) (reply : Reply sigma alpha) : Reply tau alpha :=
  ⟨reply.answer, change reply.state, reply.messages⟩

/-- Makes a further request with the answer. -/
def bind (reply : Reply sigma alpha) (next : alpha → Request sigma beta) :
    Reply sigma beta :=
  let second := next reply.answer reply.state
  ⟨second.answer, second.state, reply.messages ++ second.messages⟩

/-- Makes a further request unless the first one failed. -/
def bindOk (reply : Reply sigma (Outcome alpha))
    (next : alpha → Request sigma (Outcome beta)) : Reply sigma (Outcome beta) :=
  match reply.answer with
  | .error error => ⟨.error error, reply.state, reply.messages⟩
  | .ok value =>
      let second := next value reply.state
      ⟨second.answer, second.state, reply.messages ++ second.messages⟩

/-- Changes the value of an answer that is not an error. -/
def mapOk (change : alpha → beta) (reply : Reply sigma (Outcome alpha)) :
    Reply sigma (Outcome beta) :=
  reply.map fun answer => answer.map change

end Reply

namespace Request

variable {sigma alpha : Type}

def answer (value : alpha) : Request sigma alpha :=
  fun state => ⟨value, state, []⟩

def fail (fault : Fault) : Request sigma (Outcome alpha) :=
  answer (.error fault.toError)

end Request
end AssetExchange
