import Mathlib.Logic.Basic

/-!
# `SSHTunnel`: the jump-host tunnel as a state machine

The tunnel of `pkg/streamer/ssh` (`src/unnamed/part_001`) holds either an SSH
client to the jump host (`svrConn`) or, when built with a control file, a child
`ssh -W` process on an existing control socket (`stdioForward`). Its operations
are `CreateConnect`, `StartForward`, `Close` and `IsConnected`.

The collaborators (the streamer that builds the SSH config, `DialCtx`,
`dialControlMasterConf`, `net.SplitHostPort`, `strconv.ParseInt`,
`DialControlStdioForward`, the socket pair, `ssh.Client.Dial` and the two
`Close` methods) are given by their results, carried by the operation: a
sequence of operations with their outcomes is a run of the tunnel, and the
theorems quantify over all of them. Logging is left out.

`step` answers each operation with a `Reply` that also says which remote dial,
if any, the call reached (`DialSite`).
-/

namespace Gnetcli.Tunnel

/-- `Endpoint`: host, port and network of the jump host. -/
structure Endpoint where
  host : String
  port : Int
  network : String
  deriving DecidableEq, Repr

/-- `defaultPort` of the ssh package. -/
def defaultPort : Int := 22

/-- The handles the tunnel keeps: SSH clients, control connections, forwarded
connections, each named by a number. -/
structure SshClient where
  id : Nat
  deriving DecidableEq, Repr

structure ControlConn where
  id : Nat
  deriving DecidableEq, Repr

structure NetConn where
  id : Nat
  deriving DecidableEq, Repr

/-- `SSHTunnel`, without its logger, credentials and mutex. `config` records
whether `CreateConnect` stored an SSH client config. -/
structure SSHTunnel where
  server : Endpoint
  config : Bool
  svrConn : Option SshClient
  stdioForward : Option ControlConn
  isOpen : Bool
  controlFile : String
  deriving DecidableEq, Repr

/-- `SSHTunnelOption`s of the source, without the logger. -/
inductive SSHTunnelOption
  | withControlFile (path : String)
  | withNetwork (network : String)
  | withPort (port : Int)
  deriving DecidableEq, Repr

def SSHTunnelOption.apply (m : SSHTunnel) : SSHTunnelOption → SSHTunnel
  | .withControlFile path => { m with controlFile := path }
  | .withNetwork network => { m with server := { m.server with network } }
  | .withPort port => { m with server := { m.server with port } }

/-- `NewSSHTunnel(host, credentials, opts...)`. -/
def newSSHTunnel (host : String) (opts : List SSHTunnelOption) : SSHTunnel :=
  opts.foldl SSHTunnelOption.apply
    { server := ⟨host, defaultPort, "tcp"⟩, config := false, svrConn := none,
      stdioForward := none, isOpen := false, controlFile := "" }

/-- What the collaborators of one `CreateConnect` return. -/
structure ConnectOutcome where
  getConfig : Except String Unit
  dialControlMasterConf : Except String ControlConn
  dialCtx : Except String SshClient
  deriving Repr

/-- What the collaborators of one `StartForward` return. -/
structure ForwardOutcome where
  splitHostPort : Except String (String × String)
  parseInt : Except String Int
  dialControlStdioForward : Except String NetConn
  socketpair : Except String (NetConn × NetConn)
  dial : Except String NetConn
  deriving Repr

/-- A call on the tunnel, with the outcomes of the collaborators it reaches. -/
inductive TunnelOp
  | createConnect (o : ConnectOutcome)
  | startForward (network remoteAddr : String) (o : ForwardOutcome)
  | close
  | isConnected
  deriving Repr

/-- The remote dial a `StartForward` reached. -/
inductive DialSite
  | controlStdioForward (host : String) (port : Int)
  | svrConnDial (network remoteAddr : String)
  deriving DecidableEq, Repr

inductive Reply
  | connected (r : Except String Unit)
  | forwarded (r : Except String NetConn) (reached : Option DialSite)
  | closed
  | isConnected (isOpen : Bool)
  deriving Repr

/-- `CreateConnect` (lines 83–123). -/
def createConnect (m : SSHTunnel) (o : ConnectOutcome) : SSHTunnel × Except String Unit :=
  match o.getConfig with
  | .error err => (m, .error err)
  | .ok () =>
    let m := { m with config := true }
    if m.controlFile.length ≠ 0 then
      match o.dialControlMasterConf with
      | .error err => (m, .error err)
      | .ok mConn => ({ m with stdioForward := some mConn, svrConn := none, isOpen := true }, .ok ())
    else
      match o.dialCtx with
      | .error err => (m, .error err)
      | .ok conn => ({ m with svrConn := some conn, isOpen := true }, .ok ())

/-- `StartForward` (lines 125–179): the connection handed out, and the remote
dial reached. The copier goroutines it starts are not modelled. -/
def startForward (m : SSHTunnel) (network remoteAddr : String) (o : ForwardOutcome) :
    Except String NetConn × Option DialSite :=
  if m.stdioForward.isSome then
    match o.splitHostPort with
    | .error _ => (.error "invalid port: ", none)
    | .ok (host, port) =>
      match o.parseInt with
      | .error _ => (.error ("invalid port: " ++ port), none)
      | .ok portVal =>
        (o.dialControlStdioForward, some (.controlStdioForward host portVal))
  else if !m.isOpen then (.error "connection is closed", none)
  else
    match o.socketpair with
    | .error err => (.error err, none)
    | .ok (lconn, _) =>
      match o.dial with
      | .error err => (.error err, some (.svrConnDial network remoteAddr))
      | .ok _ => (.ok lconn, some (.svrConnDial network remoteAddr))

/-- `Close` (lines 185–208): a no-op on a closed tunnel; the connections' own
`Close` results are only logged. -/
def close (m : SSHTunnel) : SSHTunnel :=
  if !m.isOpen then m else { m with isOpen := false }

/-- One call on the tunnel. -/
def step (m : SSHTunnel) : TunnelOp → SSHTunnel × Reply
  | .createConnect o =>
    let (m', r) := createConnect m o
    (m', .connected r)
  | .startForward network remoteAddr o =>
    let (r, site) := startForward m network remoteAddr o
    (m, .forwarded r site)
  | .close => (close m, .closed)
  | .isConnected => (m, .isConnected m.isOpen)

/-- A run: the state before each call, with the call's reply, in order. -/
def run (m : SSHTunnel) : List TunnelOp → List (SSHTunnel × Reply)
  | [] => []
  | op :: ops => (m, (step m op).2) :: run (step m op).1 ops

end Gnetcli.Tunnel
