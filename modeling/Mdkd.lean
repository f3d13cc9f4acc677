import Mdkd.Framework.Num
import Mdkd.Framework.Text
import Mdkd.Framework.Base64
import Mdkd.Framework.Collections
import Mdkd.Framework.Table
import Mdkd.Framework.Relation
import Mdkd.Framework.Act
import Mdkd.Framework.Trace
import Mdkd.Framework.Refine
import Mdkd.Framework.Grace
import Mdkd.Framework.Broadcast
import Mdkd.Framework.Json
import Mdkd.Framework.Record
import Mdkd.Framework.Form
import Mdkd.Framework.Pool
import Mdkd.Framework.Ledger
import Mdkd.Impl.Ldk
import Mdkd.Impl.Types
import Mdkd.Impl.Client
import Mdkd.Impl.SpliceManager
import Mdkd.Impl.SpliceSteps
import Mdkd.Impl.Store
import Mdkd.Impl.Sql
import Mdkd.Impl.Schema
import Mdkd.Impl.Daemon
import Mdkd.Impl.Invoices
import Mdkd.Impl.EventLoop
import Mdkd.Impl.Instructions
import Mdkd.Impl.Pay
import Mdkd.Impl.PayWait
import Mdkd.Impl.Payments
import Mdkd.Impl.Onchain
import Mdkd.Impl.MaxSendable
import Mdkd.Impl.Balance
import Mdkd.Impl.Auth
import Mdkd.Impl.Channels
import Mdkd.Impl.Decode
import Mdkd.Impl.Api
import Mdkd.Impl.Wire
import Mdkd.Impl.Websocket
import Mdkd.Impl.MdkApi
import Mdkd.Impl.Dispatcher
import Mdkd.Impl.Service
import Mdkd.Proof.Splice.Step
import Mdkd.Proof.Splice.History
import Mdkd.Proof.Splice.Stale
import Mdkd.Proof.Splice.Failed
import Mdkd.Proof.Splice.Largest
import Mdkd.Proof.Splice.Calls
import Mdkd.Proof.Splice.Recorded
import Mdkd.Proof.Store
import Mdkd.Proof.Schema
import Mdkd.Proof.Events
import Mdkd.Proof.Expiry
import Mdkd.Proof.Discipline
import Mdkd.Proof.Checkout
import Mdkd.Proof.Race
import Mdkd.Proof.Notify
import Mdkd.Proof.Pay
import Mdkd.Proof.PayWait
import Mdkd.Proof.Money
import Mdkd.Proof.TwoWays
import Mdkd.Proof.Quantity
import Mdkd.Proof.Preimage
import Mdkd.Proof.Incoming
import Mdkd.Proof.Received
import Mdkd.Proof.Outgoing
import Mdkd.Proof.MaxSendable
import Mdkd.Proof.Probe
import Mdkd.Proof.Headroom
import Mdkd.Proof.Dispatch
import Mdkd.Proof.Balance
import Mdkd.Proof.Auth
import Mdkd.Proof.Websocket
import Mdkd.Proof.Delivery
import Mdkd.Proof.Service
import Mdkd.Proof.Streams
import Mdkd.Proof.Timely
import Mdkd.Proof.Pipeline
import Mdkd.Proof.MdkApi
import Mdkd.Proof.Api
import Mdkd.Proof.Created
import Mdkd.Proof.Wire
