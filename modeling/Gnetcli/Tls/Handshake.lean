import Gnetcli.Tls.ClientHello

/-!
# The full and the abbreviated handshake

Lines 41–111 and 374–901 of `handshake_server.go`: `serverHandshake` and the
functions it drives. `doFullHandshake` is written as the sequence of its blocks,
as `readClientHello` is.

Three more error sites re-declare `err` from `sendAlert` and `return err`: the
failures of `generateServerKeyExchange` (lines 461–468), of
`processClientKeyExchange` (581–588) and of `writeKeyLog` (590–596). When
`sendAlert` returns nil, `doFullHandshake` returns nil there and
`serverHandshake` goes on to `establishKeys`; the blocks return `false` and
`doFullHandshake` stops after them. The `VerifyPeerCertificate` site of
`processCertsFromClient` (874–882) likewise returns `nil, nil`.

The three transcript-hash functions log a ghost `HashCall` when called.
-/

namespace Gnetcli.Tls

section

variable (env : Env)

/-- `x509.ParseCertificate`: the certificate keeps its DER encoding as `Raw`. -/
def parseCertificate (der : Bytes) : Except TlsError X509Certificate :=
  (env.parseCertificate der).map fun publicKey => ⟨der, publicKey⟩

/-- Lines 850–872: verify the chain against `ClientCAs` when the policy asks. -/
def verifyClientCertificates (certs : List X509Certificate) : HsM Unit := do
  let config := (← get).c.config
  if config.clientAuth.toNat ≥ ClientAuthType.verifyClientCertIfGiven.toNat ∧ certs ≠ [] then
    match certs with
    | [] => throw (.panic .indexOutOfRange)
    | leaf :: intermediates =>
      let opts : VerifyOptions :=
        { roots := config.clientCAs, currentTime := config.time, intermediates,
          keyUsages := [extKeyUsageClientAuth] }
      match env.verify leaf opts with
      | .error err => alertError env .badCertificate (.verifyCertificate err)
      | .ok chains => modifyConn fun c => { c with verifiedChains := chains }

/-- Lines 874–882: the `VerifyPeerCertificate` callback. `false`: it rejected
the chain and `sendAlert` returned nil. -/
def callVerifyPeerCertificate (certificates : List Bytes) : HsM Bool := do
  let w ← get
  match w.c.config.verifyPeerCertificate with
  | none => pure true
  | some verifyPeerCertificate =>
    match verifyPeerCertificate certificates w.c.verifiedChains with
    | none => pure true
    | some _ => do
      checkAlert env .badCertificate
      pure false

/-- Lines 884–900: the leaf's key must be ECDSA or RSA. -/
def leafPublicKey (certs : List X509Certificate) : HsM (Option PublicKey) :=
  match certs with
  | [] => pure none
  | leaf :: _ =>
    match leaf.publicKey with
    | .ecdsa _ | .rsa _ => do
      modifyConn fun c => { c with peerCertificates := certs }
      pure (some leaf.publicKey)
    | .other _ _ => alertError env .unsupportedCertificate (.unsupportedPublicKey leaf.publicKey)

/-- `processCertsFromClient` (lines 834–901): the leaf's public key, if any. -/
def processCertsFromClient (certificates : List Bytes) : HsM (Option PublicKey) := do
  modifyHs fun hs => { hs with certsFromClient := certificates }
  match certificates.mapM (parseCertificate env) with
  | .error err => alertError env .badCertificate (.parseCertificate err)
  | .ok certs => do
    verifyClientCertificates env certs
    if !(← callVerifyPeerCertificate env certificates) then return none
    leafPublicKey env certs

/-- `doResumeHandshake` (lines 374–405). -/
def doResumeHandshake : HsM Unit := do
  let suite ← getSuite
  modifyHello fun h => { h with cipherSuite := suite.id }
  let ch ← getClientHello
  modifyHello fun h => { h with sessionID := ch.sessionID }
  let st ← deref .nilSessionState (← get).hs.sessionState
  modifyHello fun h => { h with ticketSupported := st.usedOldKey }
  let vers := (← get).c.vers
  modifyHs fun hs => { hs with finishedHash := newFinishedHash vers suite.id }
  discardHandshakeBuffer
  finishedHashWrite (.clientHello ch)
  let hello ← getHello
  finishedHashWrite (.serverHello hello)
  writeRecord env (.handshake (.serverHello hello))
  if st.certificates ≠ [] then
    let _ ← processCertsFromClient env st.certificates
  modifyHs fun hs => { hs with masterSecret := st.masterSecret }

/-- Lines 414–433: the ServerHello's ticket and suite fields, a fresh transcript
(without the handshake buffer when no client certificate can be requested) that
absorbs the ClientHello and the ServerHello, and the ServerHello sent. -/
def writeServerHello (ch : ClientHelloMsg) : HsM Unit := do
  let w ← get
  modifyHello fun h => { h with
    ticketSupported := ch.ticketSupported && !w.c.config.sessionTicketsDisabled }
  let suite ← getSuite
  modifyHello fun h => { h with cipherSuite := suite.id }
  modifyHs fun hs => { hs with finishedHash := newFinishedHash w.c.vers suite.id }
  if w.c.config.clientAuth = .noClientCert then discardHandshakeBuffer
  finishedHashWrite (.clientHello ch)
  let hello ← getHello
  finishedHashWrite (.serverHello hello)
  writeRecord env (.handshake (.serverHello hello))

/-- Lines 410–433: the ServerHello of a full handshake, with the OCSP flag when
a staple is there for a client that asked for one. -/
def sendServerHello : HsM Unit := do
  let w ← get
  let ch ← getClientHello
  if w.hs.cert.any fun cert => ch.ocspStapling && cert.ocspStaple ≠ [] then
    modifyHello fun h => { h with ocspStapling := true }
  writeServerHello env ch

/-- Lines 435–445: the server's Certificate, unless the suite has `suiteNoCerts`. -/
def sendCertificate : HsM Unit := do
  let suite ← getSuite
  if !suite.flags.noCerts then
    let cert ← deref .nilCert (← get).hs.cert
    finishedHashWrite (.certificate cert.certificate)
    writeRecord env (.handshake (.certificate cert.certificate))

/-- Lines 447–458: the stapled OCSP response, when agreed. -/
def sendCertificateStatus : HsM Unit := do
  if (← getHello).ocspStapling then
    let cert ← deref .nilCert (← get).hs.cert
    finishedHashWrite (.certificateStatus statusTypeOCSP cert.ocspStaple)
    writeRecord env (.handshake (.certificateStatus statusTypeOCSP cert.ocspStaple))

/-- Lines 460–477: the ServerKeyExchange, when the key agreement makes one.
`false`: it failed and `sendAlert` returned nil. -/
def sendServerKeyExchange (ka : KeyAgreement) : HsM Bool := do
  let w ← get
  let ch ← getClientHello
  let hello ← getHello
  match ka.generateServerKeyExchange w.c.config w.hs.cert ch hello with
  | .error _ => do
    checkAlert env .handshakeFailure
    pure false
  | .ok skx => do
    if let some key := skx then
      finishedHashWrite (.serverKeyExchange key)
      writeRecord env (.handshake (.serverKeyExchange key))
    pure true

/-- Lines 479–506: the CertificateRequest, when the policy asks for a client
certificate. -/
def sendCertificateRequest : HsM Unit := do
  let w ← get
  if w.c.config.clientAuth.toNat ≥ ClientAuthType.requestClientCert.toNat then
    let certReq : CertificateRequestMsg :=
      { certificateTypes := [certTypeRSASign, certTypeECDSASign]
        hasSignatureAndHash := decide (w.c.vers ≥ versionTLS12)
        signatureAndHashes :=
          if w.c.vers ≥ versionTLS12 then env.supportedSignatureAlgorithms else []
        certificateAuthorities := (w.c.config.clientCAs.map (·.subjects)).getD [] }
    finishedHashWrite (.certificateRequest certReq)
    writeRecord env (.handshake (.certificateRequest certReq))

/-- Lines 508–519: ServerHelloDone, then flush the flight. -/
def sendServerHelloDone : HsM Unit := do
  finishedHashWrite .serverHelloDone
  writeRecord env (.handshake .serverHelloDone)
  flush env

/-- Lines 521–565: the client's Certificate, when one was requested. Returns
the next message and the leaf's public key. -/
def readClientCertificate : HsM (HandshakeMsg × Option PublicKey) := do
  let msg ← readHandshake
  let clientAuth := (← get).c.config.clientAuth
  if clientAuth.toNat ≥ ClientAuthType.requestClientCert.toNat then
    match msg with
    | .certificate certificates => do
      finishedHashWrite (.certificate certificates)
      if certificates = [] ∧
          (clientAuth = .requireAnyClientCert ∨ clientAuth = .requireAndVerifyClientCert) then
        alertError env .badCertificate .noClientCertificate
      let pub ← processCertsFromClient env certificates
      let msg ← readHandshake
      pure (msg, pub)
    | _ => alertError env .unexpectedMessage (.unexpectedMessage .certificate msg.kind)
  else pure (msg, none)

/-- Lines 567–596: the ClientKeyExchange, the master secret and the key log.
`false`: the key exchange or the key log failed and `sendAlert` returned nil. -/
def readClientKeyExchange (ka : KeyAgreement) (msg : HandshakeMsg) : HsM Bool := do
  match msg with
  | .clientKeyExchange ciphertext => do
    finishedHashWrite (.clientKeyExchange ciphertext)
    let w ← get
    match ka.processClientKeyExchange w.c.config w.hs.cert ciphertext w.c.vers with
    | .error _ => do
      checkAlert env .handshakeFailure
      pure false
    | .ok preMasterSecret => do
      let suite ← getSuite
      let ch ← getClientHello
      let hello ← getHello
      let masterSecret :=
        env.masterFromPreMasterSecret w.c.vers suite.id preMasterSecret ch.random hello.random
      modifyHs fun hs => { hs with masterSecret }
      match w.c.config.writeKeyLog ch.random masterSecret with
      | some _ => do
        checkAlert env .internalError
        pure false
      | none => pure true
  | _ => alertError env .unexpectedMessage (.unexpectedMessage .clientKeyExchange msg.kind)

/-- `hashForClientCertificate`: panics when the handshake buffer is gone and the
version needs it, otherwise hashes the transcript. -/
def hashForClientCertificate (signatureAndHash : SignatureAndHash) :
    HsM (Except TlsError (Bytes × Nat)) := do
  recordHashCall .clientCertificate
  let hs := (← get).hs
  let h := hs.finishedHash
  if (h.version = versionSSL30 ∨ h.version ≥ versionTLS12) ∧ h.buffer = none then
    throw (.panic .discardedBuffer)
  pure (env.handshakeHash h signatureAndHash hs.masterSecret)

/-- Lines 618–635: the signature algorithm, explicit from TLS 1.2 on and
implied by the key before. -/
def certificateVerifyAlgorithm (pub : Option PublicKey) (certVerify : CertificateVerifyMsg) :
    Except TlsError SignatureAndHash :=
  if certVerify.hasSignatureAndHash then
    if env.supportedSignatureAlgorithms.contains certVerify.signatureAndHash then
      .ok certVerify.signatureAndHash
    else .error .unsupportedHash
  else
    .ok { hash := 0,
          signature := match pub with
            | some (.ecdsa _) => signatureECDSA
            | some (.rsa _) => signatureRSA
            | _ => 0 }

/-- Lines 637–669: check the CertificateVerify signature with the leaf's key.
A key of no listed type leaves `err` nil, as the Go `switch` does. -/
def checkClientSignature (pub : Option PublicKey) (signatureAndHash : SignatureAndHash)
    (signature : Bytes) : HsM (Option TlsError) :=
  match pub with
  | some (.ecdsa key) =>
    if signatureAndHash.signature ≠ signatureECDSA then pure (some .badSignatureTypeECDSA)
    else match env.unmarshalECDSA signature with
      | .error err => pure (some err)
      | .ok sig =>
        if sig.r ≤ 0 ∨ sig.s ≤ 0 then pure (some .ecdsaZeroOrNegative)
        else do
          match ← hashForClientCertificate env signatureAndHash with
          | .error err => pure (some err)
          | .ok (digest, _) =>
            pure (if env.ecdsaVerify key digest sig then none else some .ecdsaVerification)
  | some (.rsa key) =>
    if signatureAndHash.signature ≠ signatureRSA then pure (some .badSignatureTypeRSA)
    else do
      match ← hashForClientCertificate env signatureAndHash with
      | .error err => pure (some err)
      | .ok (digest, hashFunc) => pure (env.verifyPKCS1v15 key hashFunc digest signature)
  | _ => pure none

/-- Lines 598–682: the CertificateVerify, read when the client sent a
certificate. -/
def readCertificateVerify (pub : Option PublicKey) : HsM Unit := do
  if (← get).c.peerCertificates ≠ [] then
    match ← readHandshake with
    | .certificateVerify certVerify => do
      match certificateVerifyAlgorithm env pub certVerify with
      | .error err => throw (.error err)
      | .ok signatureAndHash => do
        match ← checkClientSignature env pub signatureAndHash certVerify.signature with
        | some err => alertError env .badCertificate (.badSignature err)
        | none => finishedHashWrite (.certificateVerify certVerify)
    | msg => alertError env .unexpectedMessage (.unexpectedMessage .certificateVerify msg.kind)

/-- `doFullHandshake` (lines 407–687). -/
def doFullHandshake : HsM Unit := do
  sendServerHello env
  sendCertificate env
  sendCertificateStatus env
  let w ← get
  let suite ← getSuite
  let keyAgreement := suite.ka w.c.vers
  if !(← sendServerKeyExchange env keyAgreement) then return
  sendCertificateRequest env
  sendServerHelloDone env
  let (msg, pub) ← readClientCertificate env
  if !(← readClientKeyExchange env keyAgreement msg) then return
  readCertificateVerify env pub
  discardHandshakeBuffer

/-- `establishKeys` (lines 689–712): the pending cipher states. -/
def establishKeys : HsM Unit := do
  let w ← get
  let suite ← getSuite
  let ch ← getClientHello
  let hello ← getHello
  let k := env.keysFromMasterSecret w.c.vers suite.id w.hs.masterSecret ch.random hello.random
    suite.macLen suite.keyLen suite.ivLen
  let macKey (key : Bytes) : Option Bytes := if suite.aead then none else some key
  modifyConn fun c => { c with
    inCipher := some ⟨w.c.vers, suite.id, k.clientKey, k.clientIV, macKey k.clientMAC⟩
    outCipher := some ⟨w.c.vers, suite.id, k.serverKey, k.serverIV, macKey k.serverMAC⟩ }

/-- Lines 725–741: the NextProtocol message, when NPN was advertised. -/
def readNextProtocol : HsM Unit := do
  if (← getHello).nextProtoNeg then
    match ← readHandshake with
    | .nextProtocol proto => do
      finishedHashWrite (.nextProtocol proto)
      modifyConn fun c => { c with clientProtocol := proto }
    | msg => alertError env .unexpectedMessage (.unexpectedMessage .nextProtocol msg.kind)

/-- Lines 743–773: the client's Finished, checked against `clientSum`;
`copyOut` says whether `out` is `c.clientFinished[:]` (it is `nil` otherwise). -/
def readClientFinished (copyOut : Bool) : HsM Unit := do
  match ← readHandshake with
  | .finished verifyData => do
    recordHashCall .clientSum
    let w ← get
    let verify := env.clientSum w.hs.finishedHash w.hs.masterSecret
    if verify.length ≠ verifyData.length ∨ verify ≠ verifyData then
      alertError env .handshakeFailure .badFinished
    finishedHashWrite (.finished verifyData)
    if copyOut then modifyConn fun c => { c with clientFinished := copyBytes c.clientFinished verify }
  | msg => alertError env .unexpectedMessage (.unexpectedMessage .finished msg.kind)

/-- `readFinished` (lines 714–774). -/
def readFinished (copyOut : Bool) : HsM Unit := do
  readChangeCipherSpec
  readNextProtocol env
  readClientFinished env copyOut

/-- `sendSessionTicket` (lines 776–806). -/
def sendSessionTicket : HsM Unit := do
  if (← getHello).ticketSupported then
    let suite ← getSuite
    let w ← get
    let state : SessionState :=
      { vers := w.c.vers, cipherSuite := suite.id, masterSecret := w.hs.masterSecret,
        certificates := w.hs.certsFromClient, usedOldKey := false }
    match w.c.config.encryptTicket state with
    | .error err => throw (.error err)
    | .ok ticket => do
      finishedHashWrite (.newSessionTicket ticket)
      writeRecord env (.handshake (.newSessionTicket ticket))

/-- `sendFinished` (lines 808–829); `copyOut` says whether `out` is
`c.serverFinished[:]`. -/
def sendFinished (copyOut : Bool) : HsM Unit := do
  writeRecord env .changeCipherSpec
  recordHashCall .serverSum
  let w ← get
  let verifyData := env.serverSum w.hs.finishedHash w.hs.masterSecret
  finishedHashWrite (.finished verifyData)
  writeRecord env (.handshake (.finished verifyData))
  let suite ← getSuite
  modifyConn fun c => { c with cipherSuite := suite.id }
  if copyOut then modifyConn fun c => { c with serverFinished := copyBytes c.serverFinished verifyData }

/-- `serverHandshake` (lines 41–111). -/
def serverHandshake : HsM Unit := do
  let isResume ← readClientHello env
  modifyConn fun c => { c with buffering := true }
  if isResume then
    doResumeHandshake env
    establishKeys env
    if (← getHello).ticketSupported then sendSessionTicket env
    sendFinished env true
    flush env
    modifyConn fun c => { c with clientFinishedIsFirst := false }
    readFinished env false
    modifyConn fun c => { c with didResume := true }
  else
    doFullHandshake env
    establishKeys env
    readFinished env true
    modifyConn fun c => { c with clientFinishedIsFirst := true, buffering := true }
    sendSessionTicket env
    sendFinished env false
    flush env
  modifyConn fun c => { c with handshakeComplete := true }

end

end Gnetcli.Tls
