import Sockets.Protocol.Doc
import Sockets.Text
import Sockets.Value
import Sockets.Value.Order
import Sockets.Value.Conversion
import Sockets.Binary64
import Sockets.Unicode.Ranges
import Sockets.Unicode.Printable
import Sockets.Unicode.Digits
import Sockets.Unicode.Nameprep
import Sockets.Unicode.Normalization
import Sockets.Unicode.Normalize
import Sockets.Protocol.Json
import Sockets.ErrorCode
import Sockets.Errno
import Sockets.Failure
import Sockets.Decimal
import Sockets.Family
import Sockets.Inet
import Sockets.Address
import Sockets.Signature
import Sockets.DescriptorSet
import Sockets.Checks
import Sockets.Raised
import Sockets.HostName
import Sockets.Resolver
import Sockets.Codec.Basic
import Sockets.Codec.Names
import Sockets.Codec.Charmaps
import Sockets.Codec.Unicode
import Sockets.Codec.Escape
import Sockets.Codec.Punycode
import Sockets.Codec.Multibyte
import Sockets.Codec
import Sockets.Kernel.Endpoint
import Sockets.Kernel.Memory
import Sockets.Kernel.Files
import Sockets.Kernel.Call
import Sockets.Kernel.UnixDomain
import Sockets.Kernel.Internet
import Sockets.Kernel.Syscall
import Sockets.Host
import Sockets.Socket.Basic
import Sockets.Socket.Lifecycle
import Sockets.Socket.Server
import Sockets.Socket.Client
import Sockets.Socket.Reading
import Sockets.Socket.Writing
import Sockets.Socket.Options
import Sockets.Machine.World
import Sockets.Machine.Addressing
import Sockets.Machine.Native
import Sockets.Machine.Script
import Sockets.Machine.Host
import Sockets.Protocol.Session.State
import Sockets.Protocol.Session.Arguments
import Sockets.Protocol.Session.View
import Sockets.Protocol.Session.Steps
import Sockets.Protocol.Session.Run
import Sockets.Protocol.Wire
import Sockets.Protocol.Call
import Sockets.Protocol.Static
import Sockets.Protocol.Respond
import Sockets.Proofs.Outcome
import Sockets.Proofs.Runs
import Sockets.Proofs.Frames
import Sockets.Proofs.Closed
import Sockets.Proofs.Exclusive
import Sockets.Proofs.Conservation
import Sockets.Proofs.Secure
import Sockets.Proofs.Layout
import Sockets.Proofs.Rebuild
import Sockets.Proofs.Refusal
import Sockets.Proofs.Shielding
import Sockets.Proofs.Bitmap
import Sockets.Proofs.Accept
import Sockets.Proofs.Preparation
import Sockets.Proofs.Serving
import Sockets.Proofs.Datagrams
import Sockets.Proofs.Closing
import Sockets.Proofs.Sending
import Sockets.Proofs.Modes
import Sockets.Proofs.Mirroring
import Sockets.Proofs.Strings
import Sockets.Proofs.Readiness
import Sockets.Proofs.Handout
import Sockets.Proofs.Dialing
import Sockets.Proofs.Validation
import Sockets.Proofs.NativeWords
import Sockets.Proofs.Draining
