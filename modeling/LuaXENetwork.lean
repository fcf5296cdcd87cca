import LuaXENetwork.Library.Search
import LuaXENetwork.Library.Incremental
import LuaXENetwork.Text
import LuaXENetwork.Lua
import LuaXENetwork.Http.Builder
import LuaXENetwork.Http.Response
import LuaXENetwork.Http.ChunkDecoder
import LuaXENetwork.Proof.Http.ChunkDecoder
import LuaXENetwork.Library.Except
import LuaXENetwork.Http.Exchange
import LuaXENetwork.Platform
import LuaXENetwork.Dial.Options
import LuaXENetwork.Dial.ProxyUrl
import LuaXENetwork.Request.Options
import LuaXENetwork.Proof.Http.Exchange
import LuaXENetwork.Proof.Http.Framing
import LuaXENetwork.Proof.Http.HeaderBlock
import LuaXENetwork.Proof.Http.Builder
import LuaXENetwork.Proof.Http.HeaderLines
import LuaXENetwork.Proof.Http.ResponseRoundTrip
import LuaXENetwork.Proof.Http.ChunkEncoding
import LuaXENetwork.Proof.Http.Callbacks
import LuaXENetwork.Listener.Request
import LuaXENetwork.Proof.Listener.Request
import LuaXENetwork.Proof.Listener.RequestRoundTrip
import LuaXENetwork.Proof.Listener.Accesses
import LuaXENetwork.Listener.Accept
import LuaXENetwork.Proof.Listener.Accept
import LuaXENetwork.Request.EntryPoints
import LuaXENetwork.Proof.Request.EntryPoints
import LuaXENetwork.Socket.Winsock
import LuaXENetwork.Socket.BaseSock
import LuaXENetwork.Proof.Socket.Winsock
import LuaXENetwork.Proof.Socket.BaseSock
import LuaXENetwork.Proof.Socket.Flowing
import LuaXENetwork.Socket.Session
import LuaXENetwork.Library.Program
import LuaXENetwork.Tls.Certificate
import LuaXENetwork.Tls.Verify
import LuaXENetwork.Tls.Client
import LuaXENetwork.Dial.World
import LuaXENetwork.Dial.Socks5
import LuaXENetwork.Tls.Handshake
import LuaXENetwork.Dial.Dial
import LuaXENetwork.Proof.Socket.Session
import LuaXENetwork.Library.History
import LuaXENetwork.Proof.Tls.Verify
import LuaXENetwork.Proof.Dial.World
import LuaXENetwork.Proof.Dial.Gate
import LuaXENetwork.Proof.Dial.Socks5
import LuaXENetwork.Proof.Dial.Messages
import LuaXENetwork.Proof.Dial.Transcript
import LuaXENetwork.Proof.Dial.ProxyUrl
import LuaXENetwork.Library.Socks5
import LuaXENetwork.Proof.Request.Proxy
import LuaXENetwork.Proof.Dial.Wire
import LuaXENetwork.Library.Alike
import LuaXENetwork.Proof.Socket.Mirror
import LuaXENetwork.Proof.Dial.Credentials
import LuaXENetwork.Library.Sender
import LuaXENetwork.Tls.Send
import LuaXENetwork.Proof.Socket.Sender
import LuaXENetwork.Tls.Receive
import LuaXENetwork.Proof.Tls.Receive
import LuaXENetwork.Proof.Dial.Causes
import LuaXENetwork.Proof.Tls.Reasons
import LuaXENetwork.Proof.Dial.Report
import LuaXENetwork.Proof.Tls.Send
import LuaXENetwork.Proof.Tls.Trust
import LuaXENetwork.Proof.Dial.Verdict
import LuaXENetwork.Connection
import LuaXENetwork.Proof.Connection
import LuaXENetwork.Proof.Tls.Names
import LuaXENetwork.Library.Tlv
import LuaXENetwork.Proof.Tls.Slices
import LuaXENetwork.Proof.Tls.AltNames
import LuaXENetwork.Proof.Tls.Bounds
import LuaXENetwork.Proof.Dial.ProxyGrammar
import LuaXENetwork.Proof.Numeral
import LuaXENetwork.Proof.Http.ChunkSize
import LuaXENetwork.Proof.Http.HeaderPhase
import LuaXENetwork.Proof.Http.HeaderLimit
import LuaXENetwork.Proof.Http.ContentLength
import LuaXENetwork.Proof.Http.TransferCoding
import LuaXENetwork.Proof.Listener.HeaderExtent
import LuaXENetwork.Proof.Listener.ContentLength
import LuaXENetwork.Proof.Socket.Timing
import LuaXENetwork.Proof.Socket.Paced
import LuaXENetwork.Proof.Dial.Limit
import LuaXENetwork.Proof.Dial.Budget
import LuaXENetwork.Proof.Dial.Deadline
import LuaXENetwork.Socket.Receive
import LuaXENetwork.Proof.Socket.Receive
import LuaXENetwork.ConnectionContext
import LuaXENetwork.Listener.Response
import LuaXENetwork.Proof.ConnectionContext
import LuaXENetwork.Proof.Http.Bodies
import LuaXENetwork.Socket.Send
import LuaXENetwork.Proof.Listener.Answer
import LuaXENetwork.Proof.Listener.StrayArgument
import LuaXENetwork.Request.Timeouts
import LuaXENetwork.Proof.Request.Timeouts
import LuaXENetwork.Proof.Request.Port
import LuaXENetwork.Proof.Request.Url
import LuaXENetwork.Proof.Request.Authority
import LuaXENetwork.Proof.Request.HostValue
import LuaXENetwork.Proof.Request.OneRequest
import LuaXENetwork.Proof.Tls.EmptyRecord
import LuaXENetwork.Proof.Tls.WriteBuffer
import LuaXENetwork.Socket.WaitReadable
import LuaXENetwork.Proof.Socket.WaitReadable
import LuaXENetwork.Socket.SendFailure
import LuaXENetwork.Proof.Socket.SendError
import LuaXENetwork.Proof.Tls.SendError
import LuaXENetwork.Library.Assoc
import LuaXENetwork.Tls.CertHelper
import LuaXENetwork.Proof.Tls.CertHelper
import LuaXENetwork.Http.PushResponse
import LuaXENetwork.Proof.Http.PushResponse
import LuaXENetwork.Proof.Http.ChunkEager
import LuaXENetwork.Proof.Tls.ReadTlv
import LuaXENetwork.Library.Discipline
import LuaXENetwork.Socket.Lifecycle
import LuaXENetwork.Proof.Socket.Lifecycle
import LuaXENetwork.Library.Stack
import LuaXENetwork.LuaStack
import LuaXENetwork.Http.CallbackStack
import LuaXENetwork.Proof.LuaStack
import LuaXENetwork.Proof.Http.CallbackStack
import LuaXENetwork.Library.Absorber
import LuaXENetwork.Misc.Md5
import LuaXENetwork.Proof.Misc.Md5
import LuaXENetwork.Misc.Base64
import LuaXENetwork.Proof.Misc.Base64
import LuaXENetwork.Proof.Tls.Handover
import LuaXENetwork.Proof.Http.Secure
import LuaXENetwork.Library.Ledger
import LuaXENetwork.AsyncPool
import LuaXENetwork.Proof.AsyncPool
import LuaXENetwork.Library.OnesComplement
import LuaXENetwork.Misc.Ping
import LuaXENetwork.Proof.Misc.Ping
import LuaXENetwork.Listener.Async
import LuaXENetwork.Proof.Listener.Async
import LuaXENetwork.Proof.Listener.Listeners
import LuaXENetwork.Socket.Ownership
import LuaXENetwork.Proof.Socket.Ownership
import LuaXENetwork.Tls.ClientCertificate
import LuaXENetwork.Proof.Tls.ClientCertificate
import LuaXENetwork.Request.Download
import LuaXENetwork.Proof.Request.Download
import LuaXENetwork.Listener.Inbound
import LuaXENetwork.Proof.Listener.Inbound
import LuaXENetwork.Library.References
import LuaXENetwork.Listener.ErrorFunctions
import LuaXENetwork.Proof.Listener.ErrorFunctions
