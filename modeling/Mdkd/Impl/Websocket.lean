import Mdkd.Framework.Broadcast
import Mdkd.Impl.Auth

/-!
# The websocket

`daemon::api::websocket`: the password comes as one of the values of
`Sec-WebSocket-Protocol` (`handler`), and after the upgrade the events are
copied from the broadcast channel to the socket (`stream_events`).
-/

namespace Mdkd.Websocket

open Framework Auth

/-- The protocols a request offers: each header is a comma-separated list. -/
def protocols (headers : HeaderMap) : List String :=
  (headers.getAll .secWebSocketProtocol).flatMap fun v =>
    (split ',' ((toStr v).getD "")).map trim

/-- `handler`: the protocol the upgrade is granted for, or the status of the
refusal. -/
def handler (httpAuth : HttpAuth) (headers : HeaderMap) : Except Nat String :=
  match (protocols headers).find? fun p =>
      p = httpAuth.fullPassword || p = httpAuth.readOnlyPassword with
  | some protocol => .ok protocol
  | none => .error 401

/-! ## Streaming -/

/-- `broadcast::channel::<String>(128)`. -/
abbrev channelCapacity : Nat := 128

/-- A call of `stream_events`: its receiver, the texts the socket has taken, and
whether it is still running. A sender of the channel lives as long as the
server, so the channel is never closed. -/
structure Stream where
  rx : Receiver String channelCapacity
  sent : List String
  running : Bool

/-- `event_tx.subscribe()`, and the upgrade. -/
def Stream.subscribe : Stream := ⟨.subscribe, [], true⟩

/-- A text sent on the channel; a stream that has ended has no receiver. -/
def Stream.send (c : Stream) (text : String) : Stream :=
  if c.running then { c with rx := c.rx.send text } else c

/-- A turn of the loop: a text goes to the socket, which may fail; a lag is
passed over. -/
def Stream.turn (sendOk : Bool) (c : Stream) : Stream :=
  if ¬ c.running then c
  else
    match c.rx.recv with
    | (.message text, rx) =>
      if sendOk then { c with rx, sent := c.sent ++ [text] } else { c with rx, running := false }
    | (_, rx) => { c with rx }

end Mdkd.Websocket
