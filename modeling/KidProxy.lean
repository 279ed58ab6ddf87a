import KidProxy.TransformPass
import KidProxy.WriterLog
import KidProxy.WriterCapacity
import KidProxy.Headers
import KidProxy.Capture
import KidProxy.Proxy
import KidProxy.Exchange
import KidProxy.ExchangeLog
import KidProxy.Delivery
import KidProxy.Framing
import KidProxy.Runtime
import KidProxy.RuntimeManager
import KidProxy.Reload
import KidProxy.AdminForm
import KidProxy.AdminSaves
import KidProxy.Encoding
import KidProxy.Observation
import KidProxy.RuntimeStop
import KidProxy.WriterBound
import KidProxy.HeaderRewrite
import KidProxy.HealthCounters
import KidProxy.HopByHop
import KidProxy.HostCheck
import KidProxy.Results
import KidProxy.SaveConfig
import KidProxy.AdminButtons
import KidProxy.BodyReplace
import KidProxy.BackendUri
import KidProxy.Calendar
import KidProxy.ConfigFile
import KidProxy.Cookies
import KidProxy.Forwarded
import KidProxy.HeaderPolicy
import KidProxy.Lib.Percent
import KidProxy.ListingRange
import KidProxy.PathFilter
import KidProxy.RuleEdits
import KidProxy.SqliteUrl
import KidProxy.EventDetail
import KidProxy.Lib.Components
import KidProxy.Lib.Paging
import KidProxy.Relay
import KidProxy.ResultPages
import KidProxy.ConfigReload
import KidProxy.EditSession
import KidProxy.Lib.Table
import KidProxy.Reading
import KidProxy.Recovery
import KidProxy.RequestRelay
import KidProxy.Schema
import KidProxy.WriterStops
import KidProxy.ReadRecord
import KidProxy.RuleTrace
import KidProxy.Unseen
