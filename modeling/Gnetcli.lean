import Gnetcli.Tls.Types
import Gnetcli.Tls.World
import Gnetcli.Tls.ClientHello
import Gnetcli.Tls.Handshake
import Gnetcli.Tunnel.SshTunnel
import Gnetcli.Tunnel.Forwarding
import Gnetcli.Tls.ClientHelloSpec
import Gnetcli.Tls.HandshakeSpec
import Gnetcli.Tls.FullHandshake
import Gnetcli.Tls.ClientAuth
import Gnetcli.Tls.Flights
import Gnetcli.Tls.ServerHandshake
import Gnetcli.Tls.Guarantees
import Gnetcli.Tls.SuiteChoice
import Gnetcli.Tls.Sessions
import Gnetcli.Tls.IgnoredAlerts
