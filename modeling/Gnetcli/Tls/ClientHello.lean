import Gnetcli.Tls.World

/-!
# `readClientHello` and the cipher-suite negotiation

Lines 113–372 and 903–987 of `handshake_server.go`. `readClientHello` reads the
ClientHello, lets `GetConfigForClient` replace the configuration, fixes the
version, the elliptic-curve, compression and extension choices, loads the
certificate, picks the cipher suite and decides on resumption. It is written
here as the sequence of its blocks (`receiveClientHello` … `checkForResumption`),
each a definition of its own that cites its lines.

Three of its error sites re-declare `err` from `sendAlert` and `return false, err`
(lines 133–138, 203–207, 242–246): when `sendAlert` returns nil, `readClientHello`
returns `false, nil` and the handshake goes on. Those blocks return `false` here,
and `readClientHello` stops with `false` after them, as the source does.

`setCipherSuite` (lines 906–953) is a pure search, `selectCipherSuite`, plus the
assignment of `hs.suite`; `checkForResumption` calls it too, which is how a ticket
whose suite passes but whose certificates do not leaves its suite behind.
-/

namespace Gnetcli.Tls

/-- Lines 920–947: whether a table entry can be used with this client, given the
capabilities `readClientHello` recorded and the configuration. -/
def suiteAcceptable (hs : ServerHandshakeState) (config : Config) (version : Nat)
    (candidate : CipherSuite) : Bool :=
  (!candidate.flags.ecdhe || (hs.ellipticOk && (!candidate.flags.ecdsa || hs.ecdsaOk))) &&
  (!candidate.flags.rsa || (hs.rsaDecryptOk && hs.rsaSignOk)) &&
  (!candidate.flags.dhe || config.dhParameters) &&
  !(decide (version < versionTLS12) && candidate.flags.tls12)

/-- Lines 911–916: the first table entry with this id. -/
def lookupCipherSuite (table : List CipherSuite) (id : Nat) : Option CipherSuite :=
  table.find? (·.id == id)

/-- The loop of `setCipherSuite` (lines 907–952): the entry it would install. -/
def selectCipherSuite (table : List CipherSuite) (hs : ServerHandshakeState) (config : Config)
    (id version : Nat) : List Nat → Option CipherSuite
  | [] => none
  | supported :: rest =>
    if id = supported then
      match lookupCipherSuite table id with
      | some candidate =>
        if suiteAcceptable hs config version candidate then some candidate
        else selectCipherSuite table hs config id version rest
      | none => selectCipherSuite table hs config id version rest
    else selectCipherSuite table hs config id version rest

section

variable (env : Env)

/-- `setCipherSuite(id, supportedCipherSuites, version)`. -/
def setCipherSuite (id : Nat) (supportedCipherSuites : List Nat) (version : Nat) : HsM Bool := do
  let w ← get
  match selectCipherSuite env.cipherSuites w.hs w.c.config id version supportedCipherSuites with
  | some candidate => do
    modifyHs fun hs => { hs with suite := some candidate }
    pure true
  | none => pure false

/-- `for _, id := range preferenceList { if hs.setCipherSuite(…) { break } }`
(lines 290–294). -/
def negotiateLoop (supportedList : List Nat) (version : Nat) : List Nat → HsM Unit
  | [] => pure ()
  | id :: rest => do
    if ← setCipherSuite env id supportedList version then pure ()
    else negotiateLoop supportedList version rest

end

/-- `suppVersArray[i:]`, which panics when `i` is past the end. -/
def sliceFrom (xs : List Nat) (i : Nat) : HsM (List Nat) :=
  if i ≤ xs.length then pure (xs.drop i) else throw (.panic .indexOutOfRange)

/-- `clientHelloInfo` (lines 958–987), cached in `hs.cachedClientHelloInfo`. -/
def clientHelloInfo : HsM ClientHelloInfo := do
  match (← get).hs.cachedClientHelloInfo with
  | some info => pure info
  | none => do
    let ch ← getClientHello
    let supportedVersions ←
      if ch.vers > versionTLS12 then pure suppVersArray
      else if ch.vers ≥ versionSSL30 then sliceFrom suppVersArray (versionTLS12 - ch.vers)
      else pure []
    let info : ClientHelloInfo :=
      { cipherSuites := ch.cipherSuites
        serverName := ch.serverName
        supportedCurves := ch.supportedCurves
        supportedPoints := ch.supportedPoints
        signatureSchemes := ch.signatureAndHashes.map fun sah => sah.hash * 256 + sah.signature
        supportedProtos := ch.alpnProtocols
        supportedVersions }
    modifyHs fun hs => { hs with cachedClientHelloInfo := some info }
    pure info

section

variable (env : Env)

/-- Lines 118–130: the first message must be a ClientHello. -/
def receiveClientHello : HsM ClientHelloMsg := do
  match ← readHandshake with
  | .clientHello ch => do
    modifyHs fun hs => { hs with clientHello := some ch }
    pure ch
  | msg => alertError env .unexpectedMessage (.unexpectedMessage .clientHello msg.kind)

/-- Lines 132–147: `GetConfigForClient` may replace the configuration. `false`:
the hook failed and `sendAlert` returned nil. -/
def applyConfigForClient : HsM Bool := do
  match (← get).c.config.getConfigForClient with
  | none => pure true
  | some getConfigForClient =>
    match getConfigForClient (← clientHelloInfo) with
    | .error _ => do
      checkAlert env .internalError
      pure false
    | .ok none => pure true
    | .ok (some newConfig) => do
      modifyConn fun c => { c with config := newConfig }
      pure true

/-- Lines 149–159: the protocol version, and a fresh ServerHello. -/
def negotiateVersion (ch : ClientHelloMsg) : HsM Unit := do
  let (vers, ok) := (← get).c.config.mutualVersion ch.vers
  modifyConn fun c => { c with vers }
  if !ok then alertError env .protocolVersion (.unsupportedVersion ch.vers)
  modifyConn fun c => { c with haveVers := true }
  modifyHs fun hs => { hs with hello := some {} }

/-- Lines 161–197: elliptic-curve support, and the null compression method. -/
def checkCurvesAndCompression (ch : ClientHelloMsg) : HsM Unit := do
  let preferredCurves := (← get).c.config.curvePreferences
  let supportedCurve := ch.supportedCurves.any fun curve => preferredCurves.contains curve
  let supportedPointFormat := ch.supportedPoints.contains pointFormatUncompressed
  modifyHs fun hs => { hs with ellipticOk := supportedCurve && supportedPointFormat }
  if !ch.compressionMethods.contains compressionNone then
    alertError env .handshakeFailure .noUncompressed

/-- Lines 199–208: the server random, read into a fresh 32-byte buffer, which
stays in the ServerHello whether the read succeeds or not. `false`: reading it
failed and `sendAlert` returned nil. -/
def readRandom : HsM Bool := do
  let w ← get
  modifyHello fun h => { h with vers := w.c.vers }
  modifyHello fun h => { h with random := w.c.config.rand.buffer }
  match w.c.config.rand.err with
  | some _ => do
    checkAlert env .internalError
    pure false
  | none => pure true

/-- Lines 210–238: renegotiation, server name, ALPN and NPN. -/
def negotiateExtensions (ch : ClientHelloMsg) : HsM Unit := do
  if ch.secureRenegotiation ≠ [] then
    alertError env .handshakeFailure .nonEmptyRenegotiation
  modifyHello fun h => { h with
    secureRenegotiationSupported := ch.secureRenegotiationSupported
    compressionMethod := compressionNone }
  if ch.serverName ≠ "" then modifyConn fun c => { c with serverName := ch.serverName }
  let config := (← get).c.config
  if ch.alpnProtocols ≠ [] then
    let (selectedProto, fallback) := env.mutualProtocol ch.alpnProtocols config.nextProtos
    if !fallback then
      modifyHello fun h => { h with alpnProtocol := selectedProto }
      modifyConn fun c => { c with clientProtocol := selectedProto }
  else if ch.nextProtoNeg && config.nextProtos ≠ [] then
    modifyHello fun h => { h with nextProtoNeg := true, nextProtos := config.nextProtos }

/-- Lines 253–278: which operations the certificate's private key supports. -/
def checkPrivateKey (key : PrivateKey) : HsM Unit := do
  if key.signer then
    match key.publicKey with
    | .ecdsa _ => modifyHs fun hs => { hs with ecdsaOk := true }
    | .rsa _ => modifyHs fun hs => { hs with rsaSignOk := true }
    | .other _ _ => alertError env .internalError (.unsupportedSigningKey key.publicKey)
  if key.decrypter then
    match key.publicKey with
    | .rsa _ => modifyHs fun hs => { hs with rsaDecryptOk := true }
    | _ => alertError env .internalError (.unsupportedDecryptionKey key.publicKey)

/-- Lines 240–279: the certificate. `false`: `getCertificate` failed and
`sendAlert` returned nil. -/
def loadCertificate (ch : ClientHelloMsg) : HsM Bool := do
  let info ← clientHelloInfo
  let (cert, err) := (← get).c.config.getCertificate info
  modifyHs fun hs => { hs with cert }
  match err with
  | some _ => do
    checkAlert env .internalError
    pure false
  | none => do
    if let some cert := cert then
      if ch.scts then modifyHello fun h => { h with scts := cert.signedCertificateTimestamps }
      checkPrivateKey env cert.privateKey
    pure true

/-- Lines 281–302: the cipher suite, by the server's or the client's preference. -/
def negotiateCipherSuite (ch : ClientHelloMsg) : HsM Unit := do
  let w ← get
  let (preferenceList, supportedList) :=
    if w.c.config.preferServerCipherSuites then (w.c.config.cipherSuites, ch.cipherSuites)
    else (ch.cipherSuites, w.c.config.cipherSuites)
  negotiateLoop env supportedList w.c.vers preferenceList
  if (← get).hs.suite.isNone then alertError env .handshakeFailure .noCipherSuite

/-- Lines 304–317: RFC 7507's fallback check. -/
def checkFallback (ch : ClientHelloMsg) : HsM Unit := do
  let maxVersion := (← get).c.config.maxVersion
  if ch.cipherSuites.contains tlsFallbackSCSV && decide (ch.vers < maxVersion) then
    alertError env .inappropriateFallback .inappropriateFallback

/-- Lines 362–371: whether the ticket's client certificates suit the current
`ClientAuth` policy. -/
def clientCertsAllowResumption (clientAuth : ClientAuthType) (certificates : List Bytes) : Bool :=
  let sessionHasClientCerts := certificates ≠ []
  let needClientCerts :=
    clientAuth = .requireAnyClientCert || clientAuth = .requireAndVerifyClientCert
  !(needClientCerts && !sessionHasClientCerts) &&
    !(sessionHasClientCerts && clientAuth = .noClientCert)

/-- `checkForResumption` (lines 327–372). -/
def checkForResumption (ch : ClientHelloMsg) : HsM Bool := do
  let w ← get
  if w.c.config.sessionTicketsDisabled then return false
  let sessionState := w.c.config.decryptTicket ch.sessionTicket
  modifyHs fun hs => { hs with sessionState }
  let some st := sessionState | return false
  if w.c.vers ≠ st.vers then return false
  if !ch.cipherSuites.contains st.cipherSuite then return false
  if !(← setCipherSuite env st.cipherSuite w.c.config.cipherSuites st.vers) then return false
  pure (clientCertsAllowResumption w.c.config.clientAuth st.certificates)

/-- `readClientHello` (lines 115–324): whether to resume. -/
def readClientHello : HsM Bool := do
  let ch ← receiveClientHello env
  if !(← applyConfigForClient env) then return false
  negotiateVersion env ch
  checkCurvesAndCompression env ch
  if !(← readRandom env) then return false
  negotiateExtensions env ch
  if !(← loadCertificate env ch) then return false
  negotiateCipherSuite env ch
  checkFallback env ch
  checkForResumption env ch

end

end Gnetcli.Tls
