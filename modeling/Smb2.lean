import Smb2.Msg.Payload
import Smb2.Client.Connection.Waiters
import Smb2.Client.Connection.Sessions
import Smb2.Client.Connection.HalfBuilt
import Smb2.Client.Connection.Retired
import Smb2.Client.Connection.MessageIds
import Smb2.Client.Connection.Counters
import Smb2.Client.Connection.Compound
import Smb2.Client.Connection.Attempts
import Smb2.Client.Tree.ReadOrder
import Smb2.Client.Tree.CopyEnds
import Smb2.Client.Tree.WritePaths
import Smb2.Client.FileWriter.Contiguity
import Smb2.Client.Charges
import Smb2.Client.Handles.Upload
import Smb2.Client.Durable.Currency
import Smb2.Client.Durable.Oplocks
import Smb2.Client.Handles.Closed
import Smb2.Client.Connection.Sizes
import Smb2.Client.Connection.WireRoundTrip
import Smb2.Client.SmbClient.Routing
import Smb2.Client.SmbClient.Sealing
import Smb2.Client.SmbClient.Nonces
import Smb2.Client.SmbClient.Redirect
import Smb2.Client.Handshake
import Smb2.Msg.ChangeNotify
import Smb2.Client.Listing
import Smb2.Memory.Bounds
import Smb2.Auth.Kerberos.Time
import Smb2.Auth.Ntlm
import Smb2.Auth.Kerberos.RoundTrip
import Smb2.Auth.Kerberos.Inverse
