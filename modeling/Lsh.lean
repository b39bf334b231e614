import Lsh.Transport.Framing
import Lsh.Lshd.Quiet
import Lsh.Transport.DiffieHellman
import Lsh.Userauth.Authenticated
import Lsh.Channel.Conservation
import Lsh.Channel.SendWindow
import Lsh.Channel.GlobalRequest
import Lsh.Channel.Silence
import Lsh.Service.Forward
import Lsh.Service.Random
import Lsh.Tcpforward.Connect
import Lsh.Spki.Includes
import Lsh.Spki.Principal
import Lsh.Spki.Reduce
import Lsh.Channel.SocksSafety
import Lsh.Channel.ServerSafety
import Lsh.Sftp.Upload
import Lsh.Crypto.Pkcs5
import Lsh.Crypto.Signature
import Lsh.Userauth.Client
import Lsh.Channel.Escape
import Lsh.Channel.Terminal
import Lsh.Channel.CommandLine
import Lsh.Tcpforward.Server
import Lsh.Alist
import Lsh.Spki.Hostkey
import Lsh.Io.Blocking
import Lsh.Babble
import Lsh.Transport.Link
