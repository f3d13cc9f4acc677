import Mdkd.Impl.SpliceManager

/-!
# The splice manager, call by call

`tick` of `mdk::splice_manager` from each of its calls into the node to the
next. The node goes on in between, so each call reads the channels as they are
then; `Manager.step` takes them as an argument. What the node answers is in
the `Call`. The map of splices is the manager's own, and nothing else writes it.
-/

namespace Mdkd.SpliceSteps

open Framework SpliceManager

/-- What `tick` has read when it calls `advance_in_flight`. -/
structure Locals where
  now : Nat
  onchainBalanceSats : UInt64
  candidates : List ChannelCandidate

/-- Where the manager is: between ticks, or in one, with the locals it has
there. -/
inductive Phase where
  | sleeping
  | listed (l : Locals)
  | decided (l : Locals) (c : SpliceCandidate)
  | sized (l : Locals) (c : SpliceCandidate) (amountSats : UInt64)
  | checked (l : Locals) (c : SpliceCandidate) (amountSats : UInt64)

structure Manager where
  inFlight : InFlightMap
  phase : Phase
  emitted : List MdkEvent

def Manager.init : Manager := ⟨∅, .sleeping, []⟩

/-- The steps of a tick, with what the clock and the node answer. -/
inductive Call where
  | listChannels (now : Nat) (spendableOnchainBalanceSats : UInt64)
  | decide
  | getMaxSpliceInAmount (answer : UserChannelId → PublicKey → Except NodeError UInt64)
  | listChannelsAgain
  | spliceIn (answer : UserChannelId → PublicKey → UInt64 → Except NodeError Unit)

namespace Manager

/-- The end of a tick, with the events it emits. -/
def finish (events : List MdkEvent) (m : Manager) : Manager :=
  { m with phase := .sleeping, emitted := m.emitted ++ events }

/-- The end of a tick whose `MdkClient::splice_in` failed. -/
def fail (c : SpliceCandidate) (m : Manager) : MdkError → Manager
  | .splice .insufficientFunds => m.finish []
  | e => m.finish [.spliceFailed c.channelId e.toText]

/-- The clock, the balance and the snapshot. -/
def listChannels (now : Nat) (spendableOnchainBalanceSats : UInt64)
    (channels : List ChannelDetails) (m : Manager) : Manager :=
  match m.phase with
  | .sleeping =>
    { m with phase := .listed ⟨now, spendableOnchainBalanceSats, channels.map .ofDetails⟩ }
  | _ => m

/-- `advance_in_flight` and `decide`, on the snapshot. -/
protected def decide (lspPubkey : PublicKey) (m : Manager) : Manager :=
  match m.phase with
  | .listed l =>
    let inFlight := advanceInFlight m.inFlight l.candidates l.now
    match SpliceManager.decide l.onchainBalanceSats l.candidates lspPubkey inFlight.keys with
    | .skip _ => { m with inFlight, phase := .sleeping }
    | .splice c => { m with inFlight, phase := .decided l c }
  | _ => m

/-- The first call of `apply`. -/
def getMaxSpliceInAmount (lspPubkey : PublicKey)
    (answer : UserChannelId → PublicKey → Except NodeError UInt64) (m : Manager) : Manager :=
  match m.phase with
  | .decided l c =>
    match answer c.userChannelId lspPubkey with
    | .error _ => m.finish []
    | .ok amountSats => { m with phase := .sized l c amountSats }
  | _ => m

/-- `MdkClient::splice_in` up to its call of the node: the amount, and the
channel in a listing of its own. -/
def listChannelsAgain (channels : List ChannelDetails) (m : Manager) : Manager :=
  match m.phase with
  | .sized l c amountSats =>
    if amountSats = 0 then m.fail c (.invalidInput "splice amount must be greater than zero")
    else
      match channels.find? fun d => d.userChannelId = c.userChannelId with
      | none =>
        m.fail c
          (.notFound ("channel with user_channel_id " ++ toString c.userChannelId.val.toNat))
      | some channel =>
        if ¬ channel.isUsable then m.fail c (.splice .channelNotUsable)
        else { m with phase := .checked l c amountSats }
  | _ => m

/-- The node's `splice_in`, and what `apply` and `tick` do with its answer. -/
def spliceIn (lspPubkey : PublicKey)
    (answer : UserChannelId → PublicKey → UInt64 → Except NodeError Unit) (m : Manager) : Manager :=
  match m.phase with
  | .checked _ c amountSats =>
    match answer c.userChannelId lspPubkey amountSats with
    | .ok () =>
      { m.finish [.spliceInitiated c.channelId] with
        inFlight := m.inFlight.insert c.userChannelId ⟨c.fundingTxo, none⟩ }
    | .error e => m.fail c (mapSpliceError e)
  | _ => m

/-- A step of the manager, at a moment when the node has `channels`. A step out
of turn does nothing. -/
def step (lspPubkey : PublicKey) (channels : List ChannelDetails) (m : Manager) : Call → Manager
  | .listChannels now spendable => m.listChannels now spendable channels
  | .decide => m.decide lspPubkey
  | .getMaxSpliceInAmount answer => m.getMaxSpliceInAmount lspPubkey answer
  | .listChannelsAgain => m.listChannelsAgain channels
  | .spliceIn answer => m.spliceIn lspPubkey answer

end Manager

end Mdkd.SpliceSteps
