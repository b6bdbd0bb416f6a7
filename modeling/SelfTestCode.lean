import SelfTestCode.Framework.Transition
import SelfTestCode.Framework.Dict
import SelfTestCode.Framework.Ring
import SelfTestCode.Framework.Links
import SelfTestCode.Framework.Numerals
import SelfTestCode.Framework.Bytes
import SelfTestCode.Framework.Framing
import SelfTestCode.Framework.Resp
import SelfTestCode.Framework.Sql
import SelfTestCode.Broker.State
import SelfTestCode.Broker.Commands
import SelfTestCode.Broker.Rules
import SelfTestCode.Broker.Tables
import SelfTestCode.Broker.Accounting
import SelfTestCode.Broker.Recency
import SelfTestCode.Broker.Requests
import SelfTestCode.Broker.Removal
import SelfTestCode.Broker.References
import SelfTestCode.Broker.Subscriptions
import SelfTestCode.Broker.Switch
import SelfTestCode.Broker.Reroute
import SelfTestCode.Broker.Adlist
import SelfTestCode.Broker.Segments
import SelfTestCode.Network.Output
import SelfTestCode.Network.Sharing
import SelfTestCode.Network.Streams
import SelfTestCode.Network.Writes
import SelfTestCode.Network.Input
import SelfTestCode.Network.Fragments
import SelfTestCode.Network.Dispatch
import SelfTestCode.Network.World
import SelfTestCode.Network.Runs
import SelfTestCode.Network.Service
import SelfTestCode.Client.Consumer
import SelfTestCode.Client.Queue
import SelfTestCode.Client.Async
import SelfTestCode.Client.Callbacks
import SelfTestCode.Client.Answers
import SelfTestCode.Device.Formats
import SelfTestCode.Device.Layout
import SelfTestCode.Device.Muxer
import SelfTestCode.Device.Demuxer
import SelfTestCode.Device.RoundTrip
import SelfTestCode.Device.Timestamps
import SelfTestCode.Device.Ownership
import SelfTestCode.Device.Timeout
import SelfTestCode.Decoder.Callbacks
import SelfTestCode.Decoder.Queues
import SelfTestCode.Decoder.Delivery
import SelfTestCode.Decoder.Geometry
import SelfTestCode.Yuming.Formatting
import SelfTestCode.Yuming.Store
import SelfTestCode.Yuming.Merge
