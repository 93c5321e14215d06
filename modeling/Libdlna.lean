import Libdlna.Vfs.Identity
import Libdlna.Vfs.Removal
import Libdlna.Vfs.Files
import Libdlna.Cds.Browse
import Libdlna.Didl.WellFormed
import Libdlna.Cds.Criteria
import Libdlna.Cds.Served
import Libdlna.Cds.UpdateIds
import Libdlna.Http.ObjectIds
import Libdlna.Store.RoundTrip
import Libdlna.Upnp.Descriptions
import Libdlna.Upnp.Answers
import Libdlna.Avts.Playing
import Libdlna.Avts.Wakeup
import Libdlna.Profiles.Items
import Libdlna.Store.Keys
import Libdlna.Vfs.Parents
import Libdlna.Vfs.Adoption
import Libdlna.Vfs.Rejections
import Libdlna.Vfs.Teardown
import Libdlna.Avts.Status
import Libdlna.Profiles.Guessing
import Libdlna.Http.Handles
import Libdlna.Http.Streams
import Libdlna.Upnp.Registry
import Libdlna.Upnp.StateVariables
import Libdlna.Cds.Ownership
import Libdlna.Didl.Filters
import Libdlna.Profiles.Durations
import Libdlna.Profiles.Transport
import Libdlna.Profiles.Mpeg
import Libdlna.Profiles.Aac
import Libdlna.Didl.Buffers
import Libdlna.Profiles.Extensions
import Libdlna.Upnp.SupportedTypes
import Libdlna.Profiles.BitRates
import Libdlna.Threads.Jobs
import Libdlna.Threads.Workers
import Libdlna.Threads.Order
import Libdlna.Threads.JobIds
import Libdlna.Threads.Timers
import Libdlna.Http.RequestPaths
import Libdlna.Events.Accounts
import Libdlna.Events.Opening
import Libdlna.Events.Releases
