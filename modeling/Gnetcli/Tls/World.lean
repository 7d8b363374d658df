import Gnetcli.Tls.Types

/-!
# The handshake's state, its environment and its monad

A server handshake runs in `HsM := EStateM Stop World`. The `World` holds the
two Go structures the file mutates (`Conn` and `serverHandshakeState`), the
client's records still to be read, the records exchanged so far (`wire`), and a
ghost log `hashCalls`: at each call of `hashForClientCertificate`, `clientSum`
and `serverSum` it records the transcript hash the call reads and the wire at
that moment. The ghost log changes no behaviour; the transcript theorem is
stated over it.

A run stops with a `Stop`: a returned non-nil error, or a Go panic (a nil
dereference, a slice out of range, a hash of a discarded buffer). `EStateM`
keeps the world on both, so properties of failing runs can be stated too.

`Env` gathers the callees that are not configuration-dependent: the record
layer's failures, `sendAlert`, x509, the PRF and the signature checks. The
record layer is modelled by its results: each `readHandshake` or `readRecord`
consumes one incoming record (or read error), so every sequence of results of
these calls is the run of some input.

`wp m Q R w` is the weakest-precondition reading of a run: `Q` holds of a normal
result, `R` of a stop. Its rules (`wp_bind`, `wp_mono`, one per primitive) are
all the proofs of later modules unfold.
-/

namespace Gnetcli.Tls

/-- `finishedHash` (prf.go): the messages absorbed by the running hashes
(`log`), the handshake buffer kept for client-certificate signatures
(`buffer`, `nil` once discarded) and the version and suite it was made for. -/
structure FinishedHash where
  version : Nat
  suite : Nat
  log : List HandshakeMsg
  buffer : Option (List HandshakeMsg)
  deriving DecidableEq, Repr

/-- `newFinishedHash(version, suite)`: empty; a handshake buffer is kept only for
SSL 3.0 and TLS 1.2 on, whose client-certificate hash reads it. -/
def newFinishedHash (version suite : Nat) : FinishedHash :=
  ⟨version, suite, [], if version = versionSSL30 ∨ version ≥ versionTLS12 then some [] else none⟩

/-- `finishedHash.Write`: absorb a message; it never returns an error, so the
source's checks of its result never fire. -/
def FinishedHash.write (h : FinishedHash) (m : HandshakeMsg) : FinishedHash :=
  { h with log := h.log ++ [m], buffer := h.buffer.map (· ++ [m]) }

/-- A TLS record of the handshake: a handshake message or ChangeCipherSpec. -/
inductive Record
  | handshake (m : HandshakeMsg)
  | changeCipherSpec
  deriving DecidableEq, Repr

/-- What crossed the connection, in order. -/
inductive WireEvent
  | recv (r : Record)
  | send (r : Record)
  | alert (a : Alert)
  deriving DecidableEq, Repr

/-- Which transcript-hash function a ghost record is for. -/
inductive HashUse
  | clientCertificate
  | clientSum
  | serverSum
  deriving DecidableEq, Repr

/-- Ghost record of one transcript-hash call. -/
structure HashCall where
  use : HashUse
  hash : FinishedHash
  exchanged : List WireEvent
  deriving DecidableEq, Repr

/-- A pending cipher state, as `prepareCipherSpec` receives it. -/
structure CipherSpec where
  version : Nat
  suite : Nat
  key : Bytes
  iv : Bytes
  macKey : Option Bytes
  deriving DecidableEq, Repr

/-- The six outputs of `keysFromMasterSecret`. -/
structure KeyBlock where
  clientMAC : Bytes
  serverMAC : Bytes
  clientKey : Bytes
  serverKey : Bytes
  clientIV : Bytes
  serverIV : Bytes
  deriving DecidableEq, Repr

/-- The fields of `Conn` the server handshake reads or writes; the defaults are
those of a fresh connection. -/
structure Conn where
  config : Config
  vers : Nat := 0
  haveVers : Bool := false
  cipherSuite : Nat := 0
  serverName : String := ""
  clientProtocol : String := ""
  peerCertificates : List X509Certificate := []
  verifiedChains : List (List X509Certificate) := []
  didResume : Bool := false
  handshakeComplete : Bool := false
  buffering : Bool := false
  clientFinishedIsFirst : Bool := false
  clientFinished : Bytes := List.replicate 12 0
  serverFinished : Bytes := List.replicate 12 0
  inCipher : Option CipherSpec := none
  outCipher : Option CipherSpec := none

/-- `serverHandshakeState`; the defaults are Go's zero values. -/
structure ServerHandshakeState where
  clientHello : Option ClientHelloMsg := none
  hello : Option ServerHelloMsg := none
  suite : Option CipherSuite := none
  ellipticOk : Bool := false
  ecdsaOk : Bool := false
  rsaDecryptOk : Bool := false
  rsaSignOk : Bool := false
  sessionState : Option SessionState := none
  finishedHash : FinishedHash := ⟨0, 0, [], none⟩
  masterSecret : Bytes := []
  certsFromClient : List Bytes := []
  cert : Option Certificate := none
  cachedClientHelloInfo : Option ClientHelloInfo := none

structure World where
  c : Conn
  hs : ServerHandshakeState
  input : List (Except TlsError Record)
  wire : List WireEvent := []
  hashCalls : List HashCall := []

/-- The world `serverHandshake` starts from: a fresh connection with `config`,
a fresh `serverHandshakeState`, and the client's records. -/
def World.init (config : Config) (input : List (Except TlsError Record)) : World :=
  { c := { config }, hs := {}, input }

/-- Where a Go panic would occur. -/
inductive Panic
  | nilClientHello
  | nilHello
  | nilSuite
  | nilSessionState
  | nilCert
  | indexOutOfRange
  | discardedBuffer
  deriving DecidableEq, Repr

/-- How a run stops early: a returned error, or a panic. -/
inductive Stop
  | error (e : TlsError)
  | panic (p : Panic)
  deriving DecidableEq, Repr

/-- The callees that do not depend on the configuration. -/
structure Env where
  /-- The `cipherSuites` table. -/
  cipherSuites : List CipherSuite
  supportedSignatureAlgorithms : List SignatureAndHash
  /-- `Conn.sendAlert`, by the records sent before it. -/
  sendAlert : List WireEvent → Alert → Option TlsError
  /-- The error of `Conn.writeRecord`, if it fails. -/
  writeRecord : List WireEvent → Record → Option TlsError
  /-- The error of `Conn.flush`, if it fails. -/
  flush : List WireEvent → Option TlsError
  /-- `mutualProtocol` (common.go). -/
  mutualProtocol : List String → List String → String × Bool
  /-- `x509.ParseCertificate`, by the key of the certificate it parses. -/
  parseCertificate : Bytes → Except TlsError PublicKey
  /-- `(*x509.Certificate).Verify`. -/
  verify : X509Certificate → VerifyOptions → Except TlsError (List (List X509Certificate))
  masterFromPreMasterSecret : Nat → Nat → Bytes → Bytes → Bytes → Bytes
  keysFromMasterSecret : Nat → Nat → Bytes → Bytes → Bytes → Nat → Nat → Nat → KeyBlock
  serverSum : FinishedHash → Bytes → Bytes
  clientSum : FinishedHash → Bytes → Bytes
  /-- `hashForClientCertificate` past its guard on the discarded buffer. -/
  handshakeHash : FinishedHash → SignatureAndHash → Bytes → Except TlsError (Bytes × Nat)
  /-- `asn1.Unmarshal` into an `ecdsaSignature`. -/
  unmarshalECDSA : Bytes → Except TlsError EcdsaSignature
  /-- `ecdsa.Verify`. -/
  ecdsaVerify : Nat → Bytes → EcdsaSignature → Bool
  /-- `rsa.VerifyPKCS1v15`. -/
  verifyPKCS1v15 : Nat → Nat → Bytes → Bytes → Option TlsError

abbrev HsM := EStateM Stop World

/-! ## Weakest preconditions -/

/-- `Q` holds of the result if `m` returns normally from `w`, `R` if it stops. -/
def wp (m : HsM α) (Q : α → World → Prop) (R : Stop → World → Prop) (w : World) : Prop :=
  match m w with
  | .ok a w' => Q a w'
  | .error e w' => R e w'

section Wp

variable {α β : Type} {Q : β → World → Prop} {R : Stop → World → Prop} {w : World}

@[simp] theorem wp_pure (a : β) : wp (pure a) Q R w = Q a w := rfl

@[simp] theorem wp_throw (e : Stop) : wp (throw e : HsM β) Q R w = R e w := rfl

@[simp] theorem wp_get : wp (get : HsM World) Q' R w = Q' w w := rfl

@[simp] theorem wp_modify (f : World → World) {Q : Unit → World → Prop} :
    wp (modify f) Q R w = Q () (f w) := rfl

@[simp] theorem wp_bind (m : HsM α) (f : α → HsM β) :
    wp (m >>= f) Q R w = wp m (fun a => wp (f a) Q R) R w := by
  simp only [wp, bind, EStateM.bind]
  cases m w <;> rfl

@[simp] theorem wp_map (f : α → β) (m : HsM α) :
    wp (f <$> m) Q R w = wp m (fun a => Q (f a)) R w := by
  show wp (EStateM.map f m) Q R w = _
  simp only [wp, EStateM.map]
  cases m w <;> rfl

theorem wp_mono {m : HsM β} {Q' : β → World → Prop} {R' : Stop → World → Prop}
    (h : wp m Q R w) (hQ : ∀ a w', Q a w' → Q' a w') (hR : ∀ e w', R e w' → R' e w') :
    wp m Q' R' w := by
  unfold wp at *
  split at h <;> simp_all

/-- Run `m` and its continuation: the shape every spec lemma is used in. -/
theorem wp_bind_of {m : HsM α} {f : α → HsM β} {P : α → World → Prop}
    (h : wp m P R w) (hf : ∀ a w', P a w' → wp (f a) Q R w') : wp (m >>= f) Q R w := by
  rw [wp_bind]
  exact wp_mono h hf fun _ _ => id

theorem wp_ite {c : Prop} [Decidable c] {m₁ m₂ : HsM β} :
    wp (if c then m₁ else m₂) Q R w = if c then wp m₁ Q R w else wp m₂ Q R w := by
  split <;> rfl

/-- Weaken what a stop may look like; the monitor comes first, so that its
type fixes the one the proof is carried out under. -/
theorem wp_stop_mono {m : HsM β} {R' : Stop → World → Prop} (hR : ∀ e w', R e w' → R' e w')
    (h : wp m Q R w) : wp m Q R' w :=
  wp_mono h (fun _ _ => id) hR

/-- Add to a block's spec what its normal returns satisfy under an assumption `p`. -/
theorem wp_and_imp {p : Prop} {m : HsM β} {Q' : β → World → Prop} (h : wp m Q R w)
    (h' : p → wp m Q' (fun _ _ => True) w) : wp m (fun a w' => Q a w' ∧ (p → Q' a w')) R w := by
  unfold wp at *
  split
  · next hm => simp only [hm] at h h'; exact ⟨h, h'⟩
  · next hm => simpa only [hm] using h

/-- Go's `if c { m }` followed by more statements `k`, once the do-notation has
copied `k` into both branches. -/
theorem wp_ite_bind_of {c : Prop} [Decidable c] {m : HsM Unit} {k : Unit → HsM β}
    {P : Unit → World → Prop} (h : wp (if c then m else pure ()) P R w)
    (hk : ∀ a w', P a w' → wp (k a) Q R w') :
    wp (if c then m >>= k else pure () >>= k) Q R w := by
  rw [show (if c then m >>= k else pure () >>= k) = (if c then m else pure ()) >>= k by split <;> rfl]
  exact wp_bind_of h hk

end Wp

/-! ## Primitives -/

section Primitives

variable (env : Env)

/-- `c.readHandshake()`: the next incoming record must be a handshake message. -/
def readHandshake : HsM HandshakeMsg := fun w =>
  match w.input with
  | [] => .error (.error .eof) w
  | .error e :: rest => .error (.error e) { w with input := rest }
  | .ok .changeCipherSpec :: rest =>
    .error (.error .unexpectedRecord)
      { w with input := rest, wire := w.wire ++ [.recv .changeCipherSpec] }
  | .ok (.handshake m) :: rest =>
    .ok m { w with input := rest, wire := w.wire ++ [.recv (.handshake m)] }

/-- `c.readRecord(recordTypeChangeCipherSpec)` followed by the check of
`c.in.err`: the next incoming record must be ChangeCipherSpec. -/
def readChangeCipherSpec : HsM Unit := fun w =>
  match w.input with
  | [] => .error (.error .eof) w
  | .error e :: rest => .error (.error e) { w with input := rest }
  | .ok .changeCipherSpec :: rest =>
    .ok () { w with input := rest, wire := w.wire ++ [.recv .changeCipherSpec] }
  | .ok (.handshake m) :: rest =>
    .error (.error .unexpectedRecord)
      { w with input := rest, wire := w.wire ++ [.recv (.handshake m)] }

/-- `c.writeRecord(typ, data)`. -/
def writeRecord (r : Record) : HsM Unit := fun w =>
  match env.writeRecord w.wire r with
  | some e => .error (.error e) w
  | none => .ok () { w with wire := w.wire ++ [.send r] }

/-- `c.flush()`. -/
def flush : HsM Unit := fun w =>
  match env.flush w.wire with
  | some e => .error (.error e) w
  | none => .ok () w

/-- `c.sendAlert(a)`: the alert goes out and `sendAlert`'s result comes back. -/
def sendAlert (a : Alert) : HsM (Option TlsError) := fun w =>
  .ok (env.sendAlert w.wire a) { w with wire := w.wire ++ [.alert a] }

/-- `err := c.sendAlert(a); if err != nil { return err }`. -/
def checkAlert (a : Alert) : HsM Unit := do
  match ← sendAlert env a with
  | some e => throw (.error e)
  | none => pure ()

/-- The error sites of the form `errAlert := c.sendAlert(a); if errAlert != nil
{ return errAlert }; return err`. -/
def alertError (a : Alert) (err : TlsError) : HsM β := do
  checkAlert env a
  throw (.error err)

end Primitives

def modifyConn (f : Conn → Conn) : HsM Unit := modify fun w => { w with c := f w.c }

def modifyHs (f : ServerHandshakeState → ServerHandshakeState) : HsM Unit :=
  modify fun w => { w with hs := f w.hs }

/-- Dereference a pointer of the handshake state, panicking on `nil`. -/
def deref (p : Panic) : Option β → HsM β
  | some a => pure a
  | none => throw (.panic p)

def getClientHello : HsM ClientHelloMsg := do deref .nilClientHello (← get).hs.clientHello

def getHello : HsM ServerHelloMsg := do deref .nilHello (← get).hs.hello

def getSuite : HsM CipherSuite := do deref .nilSuite (← get).hs.suite

/-- `hs.hello.f = v`: update the server hello in place. -/
def modifyHello (f : ServerHelloMsg → ServerHelloMsg) : HsM Unit := do
  let hello ← getHello
  modifyHs fun hs => { hs with hello := some (f hello) }

/-- `hs.finishedHash.Write(m.marshal())`. -/
def finishedHashWrite (m : HandshakeMsg) : HsM Unit :=
  modifyHs fun hs => { hs with finishedHash := hs.finishedHash.write m }

/-- `hs.finishedHash.discardHandshakeBuffer()`. -/
def discardHandshakeBuffer : HsM Unit :=
  modifyHs fun hs => { hs with finishedHash := { hs.finishedHash with buffer := none } }

/-- Ghost: log a call of a transcript-hash function on the current hash. -/
def recordHashCall (use : HashUse) : HsM Unit :=
  modify fun w => { w with hashCalls := w.hashCalls ++ [⟨use, w.hs.finishedHash, w.wire⟩] }

/-- `copy(out, verify)` into a fixed-size array. -/
def copyBytes (out src : Bytes) : Bytes := src.take out.length ++ out.drop src.length

/-! ## One-step rules for the primitives -/

section PrimitiveRules

variable {env : Env} {β : Type} {Q : β → World → Prop} {R : Stop → World → Prop} {w : World}

@[simp] theorem wp_modifyConn (f : Conn → Conn) {Q : Unit → World → Prop} :
    wp (modifyConn f) Q R w = Q () { w with c := f w.c } := rfl

@[simp] theorem wp_modifyHs (f : ServerHandshakeState → ServerHandshakeState)
    {Q : Unit → World → Prop} : wp (modifyHs f) Q R w = Q () { w with hs := f w.hs } := rfl

@[simp] theorem wp_deref (p : Panic) (o : Option β) :
    wp (deref p o) Q R w = match o with | some a => Q a w | none => R (.panic p) w := by
  cases o <;> rfl

@[simp] theorem wp_getClientHello {Q : ClientHelloMsg → World → Prop} :
    wp getClientHello Q R w = match w.hs.clientHello with
      | some ch => Q ch w
      | none => R (.panic .nilClientHello) w := by
  simp only [getClientHello, wp_bind, wp_get, wp_deref]
  cases w.hs.clientHello <;> rfl

@[simp] theorem wp_getHello {Q : ServerHelloMsg → World → Prop} :
    wp getHello Q R w = match w.hs.hello with
      | some hello => Q hello w
      | none => R (.panic .nilHello) w := by
  simp only [getHello, wp_bind, wp_get, wp_deref]
  cases w.hs.hello <;> rfl

@[simp] theorem wp_getSuite {Q : CipherSuite → World → Prop} :
    wp getSuite Q R w = match w.hs.suite with
      | some suite => Q suite w
      | none => R (.panic .nilSuite) w := by
  simp only [getSuite, wp_bind, wp_get, wp_deref]
  cases w.hs.suite <;> rfl

@[simp] theorem wp_modifyHello (f : ServerHelloMsg → ServerHelloMsg) {Q : Unit → World → Prop} :
    wp (modifyHello f) Q R w = match w.hs.hello with
      | some hello => Q () { w with hs := { w.hs with hello := some (f hello) } }
      | none => R (.panic .nilHello) w := by
  simp only [modifyHello, wp_bind, wp_getHello, wp_modifyHs]

theorem wp_readHandshake {Q : HandshakeMsg → World → Prop} :
    wp readHandshake Q R w = match w.input with
      | [] => R (.error .eof) w
      | .error e :: rest => R (.error e) { w with input := rest }
      | .ok .changeCipherSpec :: rest =>
        R (.error .unexpectedRecord)
          { w with input := rest, wire := w.wire ++ [.recv .changeCipherSpec] }
      | .ok (.handshake m) :: rest =>
        Q m { w with input := rest, wire := w.wire ++ [.recv (.handshake m)] } := by
  rcases w with ⟨c, hs, _ | ⟨_ | _ | _, rest⟩, wire, calls⟩ <;> rfl

theorem wp_readChangeCipherSpec {Q : Unit → World → Prop} :
    wp readChangeCipherSpec Q R w = match w.input with
      | [] => R (.error .eof) w
      | .error e :: rest => R (.error e) { w with input := rest }
      | .ok .changeCipherSpec :: rest =>
        Q () { w with input := rest, wire := w.wire ++ [.recv .changeCipherSpec] }
      | .ok (.handshake m) :: rest =>
        R (.error .unexpectedRecord)
          { w with input := rest, wire := w.wire ++ [.recv (.handshake m)] } := by
  rcases w with ⟨c, hs, _ | ⟨_ | _ | _, rest⟩, wire, calls⟩ <;> rfl

@[simp] theorem wp_writeRecord (r : Record) {Q : Unit → World → Prop} :
    wp (writeRecord env r) Q R w = match env.writeRecord w.wire r with
      | some e => R (.error e) w
      | none => Q () { w with wire := w.wire ++ [.send r] } := by
  unfold wp writeRecord; cases env.writeRecord w.wire r <;> rfl

@[simp] theorem wp_flush {Q : Unit → World → Prop} :
    wp (flush env) Q R w = match env.flush w.wire with
      | some e => R (.error e) w
      | none => Q () w := by
  unfold wp flush; cases env.flush w.wire <;> rfl

@[simp] theorem wp_sendAlert (a : Alert) {Q : Option TlsError → World → Prop} :
    wp (sendAlert env a) Q R w = Q (env.sendAlert w.wire a) { w with wire := w.wire ++ [.alert a] } :=
  rfl

@[simp] theorem wp_checkAlert (a : Alert) {Q : Unit → World → Prop} :
    wp (checkAlert env a) Q R w = match env.sendAlert w.wire a with
      | some e => R (.error e) { w with wire := w.wire ++ [.alert a] }
      | none => Q () { w with wire := w.wire ++ [.alert a] } := by
  simp only [checkAlert, wp_bind, wp_sendAlert]
  split <;> rfl

/-- An error site stops with `sendAlert`'s error, or with its own when
`sendAlert` returns nil. -/
@[simp] theorem wp_alertError (a : Alert) (err : TlsError) :
    wp (alertError env a err : HsM β) Q R w =
      R (.error ((env.sendAlert w.wire a).getD err)) { w with wire := w.wire ++ [.alert a] } := by
  simp only [alertError, wp_bind, wp_checkAlert, wp_throw]
  split <;> simp_all

@[simp] theorem wp_finishedHashWrite (m : HandshakeMsg) {Q : Unit → World → Prop} :
    wp (finishedHashWrite m) Q R w =
      Q () { w with hs := { w.hs with finishedHash := w.hs.finishedHash.write m } } := rfl

@[simp] theorem wp_discardHandshakeBuffer {Q : Unit → World → Prop} :
    wp discardHandshakeBuffer Q R w =
      Q () { w with hs := { w.hs with finishedHash := { w.hs.finishedHash with buffer := none } } } :=
  rfl

@[simp] theorem wp_recordHashCall (use : HashUse) {Q : Unit → World → Prop} :
    wp (recordHashCall use) Q R w =
      Q () { w with hashCalls := w.hashCalls ++ [⟨use, w.hs.finishedHash, w.wire⟩] } := rfl

end PrimitiveRules

end Gnetcli.Tls
