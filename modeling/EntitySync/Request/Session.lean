import EntitySync.Request.Codec
import EntitySync.Session.Sender
import EntitySync.Session.Receiver
/-!
# Requests on a session

A sender and a receiver joined by a first-in first-out queue of messages, driven by steps. The
messages the sender encodes are also kept, numbered from zero, so that a step can deliver one of
them later, cut short or with a byte flipped.
-/

namespace EntitySync

namespace Request

/-- A session under test: both ends, the queue between them and the messages kept. -/
structure Loopback where
  sender : Sender
  receiver : Receiver
  queue : List Bytes
  kept : List Bytes

/-- The message `bytes` without its last `n` bytes and with the byte at `pos` xor-ed with
`mask` when `pos` lies inside. -/
def damage (bytes : Bytes) (n : Nat) (flip : Option (Nat × Nat)) : Bytes :=
  let cut := bytes.take (bytes.length - n)
  match flip with
  | some (pos, mask) => cut.modify pos (· ^^^ UInt8.ofNat mask)
  | none => cut

/-- The answer of a step that applies a message at the receiver. -/
def applyAnswer (l : Loopback) (bytes : Bytes) : Json × Loopback :=
  match l.receiver.update bytes with
  | (r, .ok tick) => (okJson (.nat tick.toNat), { l with receiver := r })
  | (r, .error e) => (codecJson e, { l with receiver := r })

def sessionStep (l : Loopback) (s : Json) : Reading (Json × Loopback) := do
  let schema := l.sender.schema
  match ← strField s "do" with
  | "encode" =>
    match l.sender.encode (← snapshotOf schema (← field s "snapshot")) with
    | .ok (bytes, sender) =>
      return (okJson (.obj [("msg", .nat l.kept.length), ("bytes", hexJson bytes)]),
        { l with sender := sender, kept := l.kept ++ [bytes] })
    | .error e => return (codecJson e, l)
  | "send" =>
    match l.sender.encode (← snapshotOf schema (← field s "snapshot")) with
    | .ok (bytes, sender) =>
      return (okJson (.nat bytes.length), { l with sender := sender, queue := l.queue ++ [bytes] })
    | .error e => return (codecJson e, l)
  | "deliver" =>
    let some bytes := l.kept[← natField s "msg"]? | refuse "no such message"
    let flip ← match opt s "xor" with
      | some v => match ← asArr v with
        | p :: m :: _ => pure (some (← asNat p, (← asIntIn m 0 255).toNat))
        | _ => refuse "bad xor"
      | none => pure none
    return applyAnswer l (damage bytes (← natFieldOr s "truncate" 0) flip)
  | "apply" => return applyAnswer l (← hexField s "data")
  | "inject" => return (okJson .null, { l with queue := l.queue ++ [← hexField s "data"] })
  | "drop" =>
    match l.queue with
    | m :: rest => return (okJson (.nat m.length), { l with queue := rest })
    | [] => return (okJson .null, l)
  | "poll" =>
    let (newest, r) := l.receiver.poll l.queue
    return (okJson (Json.opt (fun t : Tick => .nat t.toNat) newest), { l with receiver := r, queue := [] })
  | "ack" => return changeAnswer codecJson l ((l.sender.acknowledge (← tickField s "tick")).map
      fun sender => { l with sender := sender })
  | "reset" => return (okJson .null, { l with sender := l.sender.reset })
  | "set_config" =>
    let index ← natBelow s "index" (2 ^ (32 : Nat))
    return changeAnswer codecJson l ((l.sender.setConfig index (← strField s "value")).map
      fun sender => { l with sender := sender })
  | "sender_config" =>
    return (okJson (Json.opt .str (l.sender.configString? (← natBelow s "index" (2 ^ (32 : Nat))))), l)
  | "receiver_config" =>
    return (okJson (Json.opt .str (l.receiver.configString? (← natBelow s "index" (2 ^ (32 : Nat))))), l)
  | "agreed_tick" => return (okJson (Json.opt (fun t : Tick => .nat t.toNat) l.sender.agreedTick), l)
  | "latest" => return (okJson (Json.opt snapshotJson l.receiver.latest?), l)
  | "sender_schema" => return (okJson (.nat schema.len), l)
  | other => refuse s!"unknown step {other}"

/-- Steps on a session between a sender and a receiver. -/
def sessionRequest (j : Json) : Reading Json := do
  let schema ← schemaField j "schema"
  let receiverSchema ← match opt j "receiver_schema" with
    | some v => schemaOf v
    | none => pure schema
  let limits ← codecLimitsField j "limits"
  let wl ← frameLimitsField j "wire_limits" true
  let l : Loopback := ⟨Sender.new schema limits wl, Receiver.new receiverSchema limits wl, [], []⟩
  let (steps, l) ← runSteps sessionStep l (← arrField j "steps")
  return .obj [("steps", .arr steps), ("queued", .nat l.queue.length)]

end Request

end EntitySync
