import Gnetcli.Tls.ClientHelloSpec
import Gnetcli.Tls.Handshake

/-!
# One spec lemma per block of the handshake after `readClientHello`

The blocks of `doFullHandshake`, `doResumeHandshake` and the steps of
`serverHandshake` around them each get a `wp` lemma in the style of
`ClientHelloSpec`: the exact world of a normal return, and what a stop may do.

The transcript vocabulary is set up first:

- `handshakeMsgs`: the handshake messages of a wire trace, in order, without
  ChangeCipherSpec records and alerts;
- `Synced`: the transcript hash holds exactly those messages;
- `HashCall.Consistent`: a logged call of `serverSum`, `clientSum` or
  `hashForClientCertificate` saw exactly the messages exchanged before the one it
  produces or checks;
- `StopsSynced`: a stopped block logged only calls that are consistent when it
  started in sync, and panicked only for a stated cause.

The three blocks that log calls (`readCertificateVerify`, `readClientFinished`,
`sendFinished`) stop with `StopsSynced`; the others stop calmly.
-/

namespace Gnetcli.Tls

/-- The handshake message a wire event carries, if any. -/
def WireEvent.handshakeMsg? : WireEvent → Option HandshakeMsg
  | .recv (.handshake m) | .send (.handshake m) => some m
  | _ => none

/-- The handshake messages of a trace, in wire order. -/
def handshakeMsgs (wire : List WireEvent) : List HandshakeMsg :=
  wire.filterMap WireEvent.handshakeMsg?

@[simp] theorem handshakeMsgs_nil : handshakeMsgs [] = [] := rfl

@[simp] theorem handshakeMsgs_append (a b : List WireEvent) :
    handshakeMsgs (a ++ b) = handshakeMsgs a ++ handshakeMsgs b :=
  List.filterMap_append _ _ _

@[simp] theorem handshakeMsgs_cons (e : WireEvent) (rest : List WireEvent) :
    handshakeMsgs (e :: rest) = (e.handshakeMsg?).toList ++ handshakeMsgs rest := by
  cases h : e.handshakeMsg? <;> simp [handshakeMsgs, List.filterMap_cons, h]

/-- The transcript hash holds exactly the handshake messages on the wire. -/
def Synced (w : World) : Prop := w.hs.finishedHash.log = handshakeMsgs w.wire

/-- A transcript-hash call saw exactly the handshake messages exchanged before
the message it produces (`serverSum`) or checks (`clientSum`, and the
CertificateVerify signature for `hashForClientCertificate`), in wire order. -/
def HashCall.Consistent (call : HashCall) : Prop :=
  match call.use with
  | .serverSum => call.hash.log = handshakeMsgs call.exchanged
  | .clientSum => ∃ pre verifyData,
      call.exchanged = pre ++ [.recv (.handshake (.finished verifyData))] ∧
      call.hash.log = handshakeMsgs pre
  | .clientCertificate => ∃ pre cv,
      call.exchanged = pre ++ [.recv (.handshake (.certificateVerify cv))] ∧
      call.hash.log = handshakeMsgs pre

/-- The hash calls grew by calls that are consistent if the run was in sync at `w`. -/
def LogsConsistently (w w' : World) : Prop :=
  ∃ extra, w'.hashCalls = w.hashCalls ++ extra ∧ (Synced w → ∀ c ∈ extra, c.Consistent)

/-- A stopped block panicked only if `cause`, and logged only consistent hash calls. -/
def StopsSynced (cause : Prop) (w : World) (e : Stop) (w' : World) : Prop :=
  LogsConsistently w w' ∧ ∀ p, e = .panic p → cause

/-- `hashForClientCertificate` panics when the buffer it needs is gone. -/
def BufferGone (h : FinishedHash) : Prop :=
  (h.version = versionSSL30 ∨ h.version ≥ versionTLS12) ∧ h.buffer = none

/-- `newFinishedHash(version, suite)` after absorbing `msgs`: the transcript hash
of a handshake that kept its buffer. -/
def transcriptHash (version suite : Nat) (msgs : List HandshakeMsg) : FinishedHash :=
  msgs.foldl FinishedHash.write (newFinishedHash version suite)

/-- `h` is the transcript hash of `msgs` for `version` and `suite`, its handshake
buffer possibly discarded since. -/
def FinishedHash.Of (h : FinishedHash) (version suite : Nat) (msgs : List HandshakeMsg) : Prop :=
  h = transcriptHash version suite msgs ∨ h = { transcriptHash version suite msgs with buffer := none }

/-- `checkClientSignature` accepts (lines 637–669): the signature type fits the
key, and the signature verifies under it over the transcript's hash. -/
def SignatureAccepted (env : Env) (key : PublicKey) (sah : SignatureAndHash) (signature : Bytes)
    (h : FinishedHash) (masterSecret : Bytes) : Prop :=
  match key with
  | .ecdsa k => sah.signature = signatureECDSA ∧ ∃ sig digest hashFunc,
      env.unmarshalECDSA signature = .ok sig ∧ 0 < sig.r ∧ 0 < sig.s ∧
      env.handshakeHash h sah masterSecret = .ok (digest, hashFunc) ∧ env.ecdsaVerify k digest sig = true
  | .rsa k => sah.signature = signatureRSA ∧ ∃ digest hashFunc,
      env.handshakeHash h sah masterSecret = .ok (digest, hashFunc) ∧
      env.verifyPKCS1v15 k hashFunc digest signature = none
  | .other _ _ => False

/-- `hs.finishedHash.Write(m.marshal())`. -/
def World.hashWrite (w : World) (m : HandshakeMsg) : World :=
  { w with hs := { w.hs with finishedHash := w.hs.finishedHash.write m } }

/-- `readHandshake` returned `m`: the next record was `m`; it is consumed and on
the wire. -/
def Received (w : World) (m : HandshakeMsg) (w' : World) : Prop :=
  w.input.head? = some (.ok (.handshake m)) ∧
    w' = { w with input := w.input.tail, wire := w.wire ++ [.recv (.handshake m)] }

/-- The next record was ChangeCipherSpec; it is consumed and on the wire. -/
def ReceivedCCS (w w' : World) : Prop :=
  w.input.head? = some (.ok .changeCipherSpec) ∧
    w' = { w with input := w.input.tail, wire := w.wire ++ [.recv .changeCipherSpec] }

/-- The server hashes a handshake message and writes it. -/
def World.hashSend (w : World) (m : HandshakeMsg) : World :=
  { w with hs := { w.hs with finishedHash := w.hs.finishedHash.write m },
           wire := w.wire ++ [.send (.handshake m)] }

/-- The chains `verifyClientCertificates` leaves (lines 850–872): the result
of `Verify` when the policy asks and there is a certificate, the old ones
otherwise. -/
def ChainsAfterVerify (env : Env) (config : Config) (certs : List X509Certificate)
    (old chains : List (List X509Certificate)) : Prop :=
  if config.clientAuth.toNat ≥ ClientAuthType.verifyClientCertIfGiven.toNat ∧ certs ≠ [] then
    ∃ leaf intermediates, certs = leaf :: intermediates ∧
      env.verify leaf
        { roots := config.clientCAs, currentTime := config.time, intermediates := intermediates,
          keyUsages := [extKeyUsageClientAuth] } = .ok chains
  else chains = old

/-- What `processCertsFromClient` leaves when it returns (lines 834–901): the
chain parsed and, when asked, verified; then either `VerifyPeerCertificate`
rejected it and `sendAlert` returned nil, or it accepted it and the leaf's key
(ECDSA or RSA) is returned with the chain stored as the peer certificates. -/
def CertsProcessed (env : Env) (w : World) (certificates : List Bytes) (pub : Option PublicKey)
    (w' : World) : Prop :=
  ∃ certs chains,
    certificates.mapM (parseCertificate env) = .ok certs ∧
    ChainsAfterVerify env w.c.config certs w.c.verifiedChains chains ∧
    let w₁ := { w with c := { w.c with verifiedChains := chains },
                       hs := { w.hs with certsFromClient := certificates } }
    ((pub = none ∧ (∃ f err, w.c.config.verifyPeerCertificate = some f ∧
          f certificates chains = some err) ∧
        env.sendAlert w.wire .badCertificate = none ∧
        w' = { w₁ with wire := w.wire ++ [.alert .badCertificate] }) ∨
      ((∀ f, w.c.config.verifyPeerCertificate = some f → f certificates chains = none) ∧
        ((certs = [] ∧ pub = none ∧ w' = w₁) ∨
          (∃ leaf rest, certs = leaf :: rest ∧
            (leaf.publicKey.isECDSA || leaf.publicKey.isRSA) = true ∧ pub = some leaf.publicKey ∧
            w' = { w₁ with c := { w₁.c with peerCertificates := certs } }))))

/-! ## The transcript hash -/

section

variable {version suite : Nat} {msgs : List HandshakeMsg} {h : FinishedHash}

theorem foldl_write (h : FinishedHash) (msgs : List HandshakeMsg) :
    msgs.foldl FinishedHash.write h = ⟨h.version, h.suite, h.log ++ msgs, h.buffer.map (· ++ msgs)⟩ := by
  induction msgs generalizing h with
  | nil => simp
  | cons m msgs ih => simp [ih, FinishedHash.write, Option.map_map, Function.comp_def]

@[simp] theorem transcriptHash_version : (transcriptHash version suite msgs).version = version := by
  simp [transcriptHash, foldl_write, newFinishedHash]

@[simp] theorem transcriptHash_suite : (transcriptHash version suite msgs).suite = suite := by
  simp [transcriptHash, foldl_write, newFinishedHash]

@[simp] theorem transcriptHash_log : (transcriptHash version suite msgs).log = msgs := by
  simp [transcriptHash, foldl_write, newFinishedHash]

theorem transcriptHash_foldl (more : List HandshakeMsg) :
    more.foldl FinishedHash.write (transcriptHash version suite msgs) = transcriptHash version suite (msgs ++ more) := by
  simp [transcriptHash, List.foldl_append]

@[simp] theorem transcriptHash_write (m : HandshakeMsg) :
    (transcriptHash version suite msgs).write m = transcriptHash version suite (msgs ++ [m]) :=
  transcriptHash_foldl [m]

/-- A kept buffer is there whenever the version needs it. -/
theorem transcriptHash_not_bufferGone : ¬BufferGone (transcriptHash version suite msgs) := by
  simp only [BufferGone, transcriptHash, foldl_write, newFinishedHash]
  split_ifs with hv <;> simp [hv]

theorem FinishedHash.Of.log (hh : h.Of version suite msgs) : h.log = msgs := by
  rcases hh with rfl | rfl <;> simp

theorem FinishedHash.Of.write (hh : h.Of version suite msgs) (m : HandshakeMsg) :
    (h.write m).Of version suite (msgs ++ [m]) := by
  rcases hh with rfl | rfl
  · exact .inl (transcriptHash_write m)
  · refine .inr ?_
    rw [← transcriptHash_write m]
    rfl

theorem FinishedHash.Of.discard (hh : h.Of version suite msgs) :
    ({ h with buffer := none } : FinishedHash).Of version suite msgs := by
  rcases hh with rfl | rfl <;> exact .inr rfl

end

/-! ## Transcript monitors -/

section

variable {w : World}

theorem LogsConsistently.of_eq {w' : World} (h : w'.hashCalls = w.hashCalls) :
    LogsConsistently w w' :=
  ⟨[], by simp [h], by simp⟩

@[simp] theorem stopsSynced_error {cause : Prop} {e : TlsError} {w' : World} :
    StopsSynced cause w (.error e) w' ↔ LogsConsistently w w' := by
  simp [StopsSynced]

/-- The call `hashForClientCertificate` logs, right after the CertificateVerify
arrived, is consistent when the transcript was in sync before it. -/
theorem consistent_clientCertificate {cv : CertificateVerifyMsg} {w' : World}
    (hw' : w'.hashCalls = w.hashCalls ++
      [⟨.clientCertificate, w.hs.finishedHash, w.wire ++ [.recv (.handshake (.certificateVerify cv))]⟩]) :
    LogsConsistently w w' :=
  ⟨_, hw', fun hs c hc => by simp only [List.mem_singleton] at hc; subst hc; exact ⟨w.wire, cv, rfl, hs⟩⟩

/-- The call `serverSum` logs, right after the server's ChangeCipherSpec, is
consistent when the transcript was in sync before it. -/
theorem consistent_serverSum {w' : World}
    (hw' : w'.hashCalls = w.hashCalls ++
      [⟨.serverSum, w.hs.finishedHash, w.wire ++ [.send .changeCipherSpec]⟩]) :
    LogsConsistently w w' :=
  ⟨_, hw', fun hs c hc => by
    simp only [List.mem_singleton] at hc
    subst hc
    simpa [HashCall.Consistent, Synced, WireEvent.handshakeMsg?] using hs⟩

/-- The call `clientSum` logs, right after the client's Finished arrived, is
consistent when the transcript was in sync before it. -/
theorem consistent_clientSum {verifyData : Bytes} {w' : World}
    (hw' : w'.hashCalls = w.hashCalls ++
      [⟨.clientSum, w.hs.finishedHash, w.wire ++ [.recv (.handshake (.finished verifyData))]⟩]) :
    LogsConsistently w w' :=
  ⟨_, hw', fun hs c hc => by
    simp only [List.mem_singleton] at hc
    subst hc
    exact ⟨w.wire, verifyData, rfl, hs⟩⟩

theorem StopsCalm.stopsSynced {cause cause' : Prop} {e : Stop} {w' : World}
    (h : StopsCalm cause w e w') (hc : cause → cause') : StopsSynced cause' w e w' :=
  ⟨⟨[], by simp [h.1], by simp⟩, fun p hp => hc (h.2 p hp)⟩

end

/-! ## Block specs -/

section

variable {env : Env} {w : World}

theorem wp_hashSend (m : HandshakeMsg) {Q : Unit → World → Prop} (cause : Prop)
    (hQ : Q () (w.hashSend m)) :
    wp (do finishedHashWrite m; writeRecord env (.handshake m)) Q (StopsCalm cause w) w := by
  simp only [wp_bind, wp_finishedHashWrite, wp_writeRecord]
  split
  · simp
  · exact hQ

/-- The ServerHello `hello'` went out, with a fresh transcript holding the
ClientHello and it: `newFinishedHash`'s, its buffer discarded under
`NoClientCert` (lines 414–433). -/
def World.helloSent (w : World) (s : CipherSuite) (ch : ClientHelloMsg) (hello' : ServerHelloMsg) : World :=
  let fh := transcriptHash w.c.vers s.id [.clientHello ch, .serverHello hello']
  { w with
    hs := { w.hs with
      hello := some hello',
      finishedHash := if w.c.config.clientAuth = .noClientCert then { fh with buffer := none } else fh },
    wire := w.wire ++ [.send (.handshake (.serverHello hello'))] }

theorem World.helloSent_finishedHash (w : World) (s : CipherSuite) (ch : ClientHelloMsg)
    (hello' : ServerHelloMsg) :
    (w.helloSent s ch hello').hs.finishedHash.Of w.c.vers s.id [.clientHello ch, .serverHello hello'] := by
  unfold World.helloSent
  split_ifs
  · exact .inr rfl
  · exact .inl rfl

theorem writeServerHello_spec (ch : ClientHelloMsg) {hello : ServerHelloMsg} {s : CipherSuite}
    (hh : w.hs.hello = some hello) (hs : w.hs.suite = some s) :
    wp (writeServerHello env ch)
      (fun _ w' => w' = w.helloSent s ch { hello with
        ticketSupported := ch.ticketSupported && !w.c.config.sessionTicketsDisabled, cipherSuite := s.id })
      (StopsCalm False w) w := by
  simp only [writeServerHello, wp_bind, wp_get, wp_modifyHello, hh, wp_getSuite, hs, wp_modifyHs, wp_ite,
    wp_pure, wp_discardHandshakeBuffer, wp_finishedHashWrite, wp_getHello, wp_writeRecord]
  by_cases hca : w.c.config.clientAuth = .noClientCert
  · -- the buffer is discarded before the ClientHello is absorbed
    simp only [hca, if_true]
    split
    · simp
    · simp [World.helloSent, hca, hs, transcriptHash, FinishedHash.write, newFinishedHash]
  · simp only [hca, if_false]
    split
    · simp
    · simp [World.helloSent, hca, hs, transcriptHash, FinishedHash.write]

theorem sendServerHello_spec {ch : ClientHelloMsg} {hello : ServerHelloMsg} {s : CipherSuite}
    (hch : w.hs.clientHello = some ch) (hh : w.hs.hello = some hello) (hs : w.hs.suite = some s) :
    wp (sendServerHello env)
      (fun _ w' => ∃ hello', w' = w.helloSent s ch hello' ∧
        hello'.ocspStapling =
          (hello.ocspStapling || w.hs.cert.any fun c => ch.ocspStapling && decide (c.ocspStaple ≠ [])) ∧
        hello'.ticketSupported = (ch.ticketSupported && !w.c.config.sessionTicketsDisabled) ∧
        hello'.nextProtoNeg = hello.nextProtoNeg ∧ hello'.cipherSuite = s.id)
      (StopsCalm False w) w := by
  simp only [sendServerHello, wp_bind, wp_get, wp_getClientHello, hch]
  -- the OCSP flag, on the ServerHello `readClientHello` left
  have hocsp : wp (if (w.hs.cert.any fun c => ch.ocspStapling && decide (c.ocspStaple ≠ [])) = true then
        modifyHello fun h => { h with ocspStapling := true } else pure ())
      (fun _ w₁ => ∃ hello₁, w₁ = { w with hs := { w.hs with hello := some hello₁ } } ∧
        hello₁.ocspStapling =
          (hello.ocspStapling || w.hs.cert.any fun c => ch.ocspStapling && decide (c.ocspStaple ≠ [])) ∧
        hello₁.nextProtoNeg = hello.nextProtoNeg) (StopsCalm False w) w := by
    split
    · next hc =>
      rw [wp_modifyHello, hh]
      exact ⟨_, rfl, by rw [hc, Bool.or_true], rfl⟩
    · next hc =>
      rw [Bool.not_eq_true] at hc
      exact ⟨hello, by simp [← hh], by rw [hc, Bool.or_false], rfl⟩
  refine wp_ite_bind_of hocsp ?_
  rintro _ _ ⟨hello₁, rfl, hocsp, hnpn⟩
  exact wp_mono (writeServerHello_spec ch rfl hs) (fun _ _ h => ⟨_, h, hocsp, rfl, hnpn, rfl⟩) fun _ _ => id

theorem sendCertificate_spec {s : CipherSuite} (hs : w.hs.suite = some s) :
    wp (sendCertificate env)
      (fun _ w' => (s.flags.noCerts = true ∧ w' = w) ∨
        (s.flags.noCerts = false ∧ ∃ cert, w.hs.cert = some cert ∧
          w' = w.hashSend (.certificate cert.certificate)))
      (StopsCalm (w.hs.cert = none) w) w := by
  simp only [sendCertificate, wp_bind, wp_getSuite, hs]
  cases hn : s.flags.noCerts
  · simp only [Bool.not_false, if_true, wp_bind, wp_get, wp_deref]
    rcases hc : w.hs.cert with _ | cert
    · simp [hc]
    · exact wp_hashSend _ _ (Or.inr ⟨trivial, cert, rfl, rfl⟩)
  · simp

theorem sendCertificateStatus_spec {hello : ServerHelloMsg} (hh : w.hs.hello = some hello) :
    wp (sendCertificateStatus env)
      (fun _ w' => (hello.ocspStapling = false ∧ w' = w) ∨
        (hello.ocspStapling = true ∧ ∃ cert, w.hs.cert = some cert ∧
          w' = w.hashSend (.certificateStatus statusTypeOCSP cert.ocspStaple)))
      (StopsCalm (w.hs.cert = none) w) w := by
  simp only [sendCertificateStatus, wp_bind, wp_getHello, hh]
  cases ho : hello.ocspStapling
  · simp
  · simp only [if_true, wp_bind, wp_get, wp_deref]
    rcases hc : w.hs.cert with _ | cert
    · simp [hc]
    · exact wp_hashSend _ _ (Or.inr ⟨trivial, cert, rfl, rfl⟩)

theorem sendServerKeyExchange_spec (ka : KeyAgreement) {ch : ClientHelloMsg} {hello : ServerHelloMsg}
    (hch : w.hs.clientHello = some ch) (hh : w.hs.hello = some hello) :
    wp (sendServerKeyExchange env ka)
      (fun ok w' =>
        (ok = false ∧ (∃ err, ka.generateServerKeyExchange w.c.config w.hs.cert ch hello = .error err) ∧
          env.sendAlert w.wire .handshakeFailure = none ∧
          w' = { w with wire := w.wire ++ [.alert .handshakeFailure] }) ∨
        (ok = true ∧ ka.generateServerKeyExchange w.c.config w.hs.cert ch hello = .ok none ∧ w' = w) ∨
        (ok = true ∧ ∃ key, ka.generateServerKeyExchange w.c.config w.hs.cert ch hello = .ok (some key) ∧
          w' = w.hashSend (.serverKeyExchange key)))
      (StopsCalm False w) w := by
  simp only [sendServerKeyExchange, wp_bind, wp_get, wp_getClientHello, hch, wp_getHello, hh]
  rcases hg : ka.generateServerKeyExchange w.c.config w.hs.cert ch hello with err | _ | key
  · simp only [wp_bind, wp_checkAlert]
    split <;> simp_all
  · simp
  · simp only [wp_bind, wp_pure, wp_finishedHashWrite, wp_writeRecord]
    split <;> simp [World.hashSend]

theorem sendCertificateRequest_spec :
    wp (sendCertificateRequest env)
      (fun _ w' =>
        (w.c.config.clientAuth.toNat < ClientAuthType.requestClientCert.toNat ∧ w' = w) ∨
        (ClientAuthType.requestClientCert.toNat ≤ w.c.config.clientAuth.toNat ∧
          ∃ req, w' = w.hashSend (.certificateRequest req)))
      (StopsCalm False w) w := by
  simp only [sendCertificateRequest, wp_bind, wp_get]
  split
  · refine wp_hashSend _ _ ?_
    exact Or.inr ⟨‹_›, _, rfl⟩
  · simp_all

theorem sendServerHelloDone_spec :
    wp (sendServerHelloDone env) (fun _ w' => w' = w.hashSend .serverHelloDone)
      (StopsCalm False w) w := by
  simp only [sendServerHelloDone, wp_bind, wp_finishedHashWrite, wp_writeRecord]
  split
  · simp
  · simp only [wp_flush]
    split
    · simp
    · rfl

theorem verifyClientCertificates_spec (certs : List X509Certificate) :
    wp (verifyClientCertificates env certs)
      (fun _ w' => ∃ chains, w' = { w with c := { w.c with verifiedChains := chains } } ∧
        ChainsAfterVerify env w.c.config certs w.c.verifiedChains chains)
      (StopsCalm False w) w := by
  simp only [verifyClientCertificates, wp_bind, wp_get, ChainsAfterVerify]
  split
  · rename_i hc
    rcases certs with _ | ⟨leaf, rest⟩
    · exact absurd rfl hc.2
    · dsimp only
      split
      · simp
      · rename_i chains hv
        simp only [wp_modifyConn]
        exact ⟨chains, rfl, leaf, rest, rfl, hv⟩
  · rename_i hc
    exact ⟨w.c.verifiedChains, rfl, by simp [hc]⟩

theorem callVerifyPeerCertificate_spec (certificates : List Bytes) :
    wp (callVerifyPeerCertificate env certificates)
      (fun ok w' =>
        (ok = false ∧ (∃ f err, w.c.config.verifyPeerCertificate = some f ∧
            f certificates w.c.verifiedChains = some err) ∧
          env.sendAlert w.wire .badCertificate = none ∧
          w' = { w with wire := w.wire ++ [.alert .badCertificate] }) ∨
        (ok = true ∧ (∀ f, w.c.config.verifyPeerCertificate = some f →
            f certificates w.c.verifiedChains = none) ∧ w' = w))
      (StopsCalm False w) w := by
  simp only [callVerifyPeerCertificate, wp_bind, wp_get]
  split
  · simp_all
  · split
    · simp_all
    · simp only [wp_bind, wp_checkAlert]
      split <;> simp_all

theorem leafPublicKey_spec (certs : List X509Certificate) :
    wp (leafPublicKey env certs)
      (fun pub w' => (certs = [] ∧ pub = none ∧ w' = w) ∨
        (∃ leaf rest, certs = leaf :: rest ∧ (leaf.publicKey.isECDSA || leaf.publicKey.isRSA) = true ∧
          pub = some leaf.publicKey ∧ w' = { w with c := { w.c with peerCertificates := certs } }))
      (StopsCalm False w) w := by
  rcases certs with _ | ⟨leaf, rest⟩
  · simp [leafPublicKey]
  · rcases h : leaf.publicKey with k | k | k <;>
      simp [leafPublicKey, h, PublicKey.isECDSA, PublicKey.isRSA]

/-- `x509.ParseCertificate` keeps each certificate's DER encoding as its `Raw`. -/
theorem mapM_parseCertificate_raw {certificates : List Bytes} :
    ∀ {certs : List X509Certificate}, certificates.mapM (parseCertificate env) = .ok certs →
      certs.map (·.raw) = certificates := by
  induction certificates with
  | nil => intro certs h; cases h; rfl
  | cons der rest ih =>
    intro certs h
    rcases hp : env.parseCertificate der with err | key <;>
    rcases hr : rest.mapM (parseCertificate env) with err' | certs' <;>
    simp only [List.mapM_cons, parseCertificate, hp, hr, Except.map, bind, Except.bind, Functor.map,
      pure, Except.pure, reduceCtorEq, Except.ok.injEq] at h
    subst h
    simp [ih hr]

theorem processCertsFromClient_spec (certificates : List Bytes) :
    wp (processCertsFromClient env certificates) (CertsProcessed env w certificates)
      (StopsCalm False w) w := by
  simp only [processCertsFromClient]
  rw [wp_bind, wp_modifyHs]
  rcases hp : certificates.mapM (parseCertificate env) with err | certs
  · simp
  · refine wp_bind_calm (verifyClientCertificates_spec certs) rfl ?_
    rintro _ _ ⟨chains, rfl, hv⟩
    refine wp_bind_calm (callVerifyPeerCertificate_spec certificates) rfl ?_
    rintro _ _ (⟨rfl, hrej, hal, rfl⟩ | ⟨rfl, hacc, rfl⟩)
    · exact ⟨certs, chains, hp, hv, Or.inl ⟨rfl, hrej, hal, rfl⟩⟩
    · simp only [Bool.not_true, Bool.false_eq_true, if_false, pure_bind]
      refine wp_mono (leafPublicKey_spec certs) ?_ fun _ _ h => h
      rintro _ _ (⟨rfl, rfl, rfl⟩ | ⟨leaf, rest, rfl, hk, rfl, rfl⟩)
      · exact ⟨[], chains, hp, hv, Or.inr ⟨hacc, Or.inl ⟨rfl, rfl, rfl⟩⟩⟩
      · exact ⟨_, chains, hp, hv, Or.inr ⟨hacc, Or.inr ⟨leaf, rest, rfl, hk, rfl, rfl⟩⟩⟩

theorem CertsProcessed.hashCalls {certificates : List Bytes} {pub : Option PublicKey} {w' : World}
    (h : CertsProcessed env w certificates pub w') : w'.hashCalls = w.hashCalls := by
  obtain ⟨certs, chains, -, -, ⟨-, -, -, rfl⟩ | ⟨-, ⟨-, -, rfl⟩ | ⟨leaf, rest, -, -, -, rfl⟩⟩⟩ := h <;> rfl

theorem readHandshake_spec : wp readHandshake (Received w) (StopsCalm False w) w := by
  rw [wp_readHandshake]
  rcases w with ⟨c, hs, _ | ⟨_ | _ | _, rest⟩, wire, calls⟩ <;> simp [Received]

theorem readClientCertificate_spec :
    wp (readClientCertificate env)
      (fun r w' =>
        (w.c.config.clientAuth.toNat < ClientAuthType.requestClientCert.toNat ∧ r.2 = none ∧
          Received w r.1 w') ∨
        (ClientAuthType.requestClientCert.toNat ≤ w.c.config.clientAuth.toNat ∧
          ∃ certificates w₁ w₂, Received w (.certificate certificates) w₁ ∧
            ¬(certificates = [] ∧ (w.c.config.clientAuth = .requireAnyClientCert ∨
              w.c.config.clientAuth = .requireAndVerifyClientCert)) ∧
            CertsProcessed env (w₁.hashWrite (.certificate certificates)) certificates r.2 w₂ ∧
            Received w₂ r.1 w'))
      (StopsCalm False w) w := by
  unfold readClientCertificate
  refine wp_bind_calm readHandshake_spec rfl ?_
  rintro msg _ ⟨hin, rfl⟩
  simp only [wp_bind, wp_get]
  split
  · rename_i hreq
    rcases msg with _ | _ | certificates | _ | _ | _ | _ | _ | _ | _ | _ | _ <;>
      simp only [wp_alertError, stopsCalm_error]
    rw [wp_bind, wp_finishedHashWrite]
    split
    · simp
    rename_i hnot
    rw [pure_bind]
    refine wp_bind_calm (processCertsFromClient_spec certificates) rfl ?_
    intro pub w₂ hproc
    refine wp_bind_calm readHandshake_spec hproc.hashCalls ?_
    rintro msg _ ⟨hin', rfl⟩
    exact Or.inr ⟨hreq, certificates, _, _, ⟨hin, rfl⟩, hnot, hproc, hin', rfl⟩
  · rename_i hreq
    exact Or.inl ⟨by omega, rfl, hin, rfl⟩

theorem readClientKeyExchange_spec (ka : KeyAgreement) (msg : HandshakeMsg) {s : CipherSuite}
    {ch : ClientHelloMsg} {hello : ServerHelloMsg} (hs : w.hs.suite = some s)
    (hch : w.hs.clientHello = some ch) (hh : w.hs.hello = some hello) :
    wp (readClientKeyExchange env ka msg)
      (fun ok w' => ∃ ciphertext, msg = .clientKeyExchange ciphertext ∧
        let w₁ := w.hashWrite msg
        ((ok = false ∧
            (∃ err, ka.processClientKeyExchange w.c.config w.hs.cert ciphertext w.c.vers = .error err) ∧
            env.sendAlert w.wire .handshakeFailure = none ∧
            w' = { w₁ with wire := w.wire ++ [.alert .handshakeFailure] }) ∨
          (∃ preMasterSecret,
            ka.processClientKeyExchange w.c.config w.hs.cert ciphertext w.c.vers = .ok preMasterSecret ∧
            let masterSecret :=
              env.masterFromPreMasterSecret w.c.vers s.id preMasterSecret ch.random hello.random
            ((ok = false ∧ (∃ err, w.c.config.writeKeyLog ch.random masterSecret = some err) ∧
                env.sendAlert w.wire .internalError = none ∧
                w' = { w₁ with hs := { w₁.hs with masterSecret },
                               wire := w.wire ++ [.alert .internalError] }) ∨
              (ok = true ∧ w.c.config.writeKeyLog ch.random masterSecret = none ∧
                w' = { w₁ with hs := { w₁.hs with masterSecret } })))))
      (StopsCalm False w) w := by
  rcases msg with _ | _ | _ | _ | _ | _ | _ | ciphertext | _ | _ | _ | _ <;>
    simp only [readClientKeyExchange, wp_alertError, stopsCalm_error]
  simp only [wp_bind, wp_finishedHashWrite, wp_get]
  split
  · simp only [wp_bind, wp_checkAlert]
    split <;> simp_all [World.hashWrite]
  · rename_i pms hpms
    simp only [wp_bind, wp_getSuite, wp_getClientHello, wp_getHello, wp_modifyHs, hs, hch, hh]
    split
    · simp only [wp_bind, wp_checkAlert]
      split <;> simp_all [World.hashWrite]
    · simp_all [World.hashWrite]

theorem hashForClientCertificate_spec (sah : SignatureAndHash) :
    wp (hashForClientCertificate env sah)
      (fun r w' => ¬BufferGone w.hs.finishedHash ∧
        r = env.handshakeHash w.hs.finishedHash sah w.hs.masterSecret ∧
        w' = { w with hashCalls := w.hashCalls ++ [⟨.clientCertificate, w.hs.finishedHash, w.wire⟩] })
      (fun e w' => e = .panic .discardedBuffer ∧ BufferGone w.hs.finishedHash ∧
        w' = { w with hashCalls := w.hashCalls ++ [⟨.clientCertificate, w.hs.finishedHash, w.wire⟩] })
      w := by
  simp only [hashForClientCertificate, wp_bind, wp_recordHashCall, wp_get, BufferGone]
  split <;> simp_all

theorem checkClientSignature_spec (key : PublicKey) (sah : SignatureAndHash) (signature : Bytes) :
    wp (checkClientSignature env (some key) sah signature)
      (fun r w' =>
        (w' = w ∨
          w' = { w with hashCalls := w.hashCalls ++ [⟨.clientCertificate, w.hs.finishedHash, w.wire⟩] }) ∧
        (r = none → (key.isECDSA || key.isRSA) = true →
          SignatureAccepted env key sah signature w.hs.finishedHash w.hs.masterSecret ∧
          w' = { w with hashCalls := w.hashCalls ++ [⟨.clientCertificate, w.hs.finishedHash, w.wire⟩] }))
      (fun e w' => e = .panic .discardedBuffer ∧ BufferGone w.hs.finishedHash ∧
        w' = { w with hashCalls := w.hashCalls ++ [⟨.clientCertificate, w.hs.finishedHash, w.wire⟩] })
      w := by
  rcases key with k | k | k
  · simp only [checkClientSignature]
    by_cases hsig : sah.signature = signatureECDSA
    · rcases hu : env.unmarshalECDSA signature with err | sig
      · simp [hsig, hu]
      · by_cases hrs : sig.r ≤ 0 ∨ sig.s ≤ 0
        · simp [hsig, hu, hrs]
        · simp only [hsig, hu, hrs, ne_eq, not_true_eq_false, if_false]
          refine wp_bind_of (hashForClientCertificate_spec sah) ?_
          rintro r _ ⟨-, rfl, rfl⟩
          rcases hh : env.handshakeHash w.hs.finishedHash sah w.hs.masterSecret with err | ⟨digest, hf⟩
          · simp
          · cases hv : env.ecdsaVerify k digest sig <;> simp_all [SignatureAccepted, Int.not_le]
    · simp [hsig]
  · simp only [checkClientSignature]
    by_cases hsig : sah.signature = signatureRSA
    · simp only [hsig, ne_eq, not_true_eq_false, if_false]
      refine wp_bind_of (hashForClientCertificate_spec sah) ?_
      rintro r _ ⟨-, rfl, rfl⟩
      rcases hh : env.handshakeHash w.hs.finishedHash sah w.hs.masterSecret with err | ⟨digest, hf⟩
      · simp
      · simp_all [SignatureAccepted]
        exact fun hv _ => ⟨_, _, ⟨rfl, rfl⟩, hv⟩
    · simp [hsig]
  · simp [checkClientSignature, PublicKey.isECDSA, PublicKey.isRSA]

theorem readCertificateVerify_spec (pub : Option PublicKey)
    (hpub : w.c.peerCertificates ≠ [] → ∃ key, pub = some key ∧ (key.isECDSA || key.isRSA) = true) :
    wp (readCertificateVerify env pub)
      (fun _ w' => (w.c.peerCertificates = [] ∧ w' = w) ∨
        (∃ key cv sah w₁, w.c.peerCertificates ≠ [] ∧ pub = some key ∧ Received w (.certificateVerify cv) w₁ ∧
          certificateVerifyAlgorithm env pub cv = .ok sah ∧
          SignatureAccepted env key sah cv.signature w.hs.finishedHash w.hs.masterSecret ∧
          w' = { w₁.hashWrite (.certificateVerify cv) with
            hashCalls := w.hashCalls ++ [⟨.clientCertificate, w.hs.finishedHash, w₁.wire⟩] }))
      (StopsSynced (w.c.peerCertificates ≠ [] ∧ BufferGone w.hs.finishedHash) w) w := by
  simp only [readCertificateVerify]
  rw [wp_bind, wp_get]
  split
  · rename_i hne
    obtain ⟨key, rfl, hk⟩ := hpub hne
    rw [wp_bind]
    refine wp_mono readHandshake_spec ?_ fun _ _ h => h.stopsSynced False.elim
    rintro msg _ ⟨hin, rfl⟩
    rcases msg with _ | _ | _ | _ | _ | _ | _ | _ | cv | _ | _ | _ <;>
      simp only [wp_alertError, stopsSynced_error]
    case certificateVerify =>
      rcases halg : certificateVerifyAlgorithm env (some key) cv with err | sah
      · simp only [wp_throw, stopsSynced_error]
        exact .of_eq rfl
      dsimp only
      refine wp_bind_of (wp_mono (checkClientSignature_spec key sah cv.signature) (fun _ _ => id)
        fun _ _ ⟨he, hb, hw⟩ => ⟨?_, fun _ _ => ⟨hne, hb⟩⟩) ?_
      · subst hw
        exact consistent_clientCertificate rfl
      · rintro r _ ⟨hw', hacc⟩
        rcases r with _ | err
        · obtain ⟨hsig, rfl⟩ := hacc rfl hk
          exact Or.inr ⟨key, cv, sah, _, hne, rfl, ⟨hin, rfl⟩, halg, hsig, rfl⟩
        · simp only [wp_alertError, stopsSynced_error]
          rcases hw' with rfl | rfl
          · exact .of_eq rfl
          · exact consistent_clientCertificate rfl
    all_goals exact .of_eq rfl
  · simp_all

theorem readChangeCipherSpec_spec : wp readChangeCipherSpec (fun _ => ReceivedCCS w) (StopsCalm False w) w := by
  rw [wp_readChangeCipherSpec]
  rcases w with ⟨c, hs, _ | ⟨_ | _ | _, rest⟩, wire, calls⟩ <;> simp [ReceivedCCS]

theorem establishKeys_spec {s : CipherSuite} {ch : ClientHelloMsg} {hello : ServerHelloMsg}
    (hs : w.hs.suite = some s) (hch : w.hs.clientHello = some ch) (hh : w.hs.hello = some hello) :
    wp (establishKeys env)
      (fun _ w' => ∃ inCipher outCipher, w' = { w with c := { w.c with inCipher, outCipher } })
      (StopsCalm False w) w := by
  simp [establishKeys, hs, hch, hh]

theorem sendSessionTicket_spec {s : CipherSuite} {hello : ServerHelloMsg}
    (hs : w.hs.suite = some s) (hh : w.hs.hello = some hello) :
    wp (sendSessionTicket env)
      (fun _ w' => (hello.ticketSupported = false ∧ w' = w) ∨
        (hello.ticketSupported = true ∧ ∃ ticket,
          w.c.config.encryptTicket ⟨w.c.vers, s.id, w.hs.masterSecret, w.hs.certsFromClient, false⟩ =
            .ok ticket ∧
          w' = w.hashSend (.newSessionTicket ticket)))
      (StopsCalm False w) w := by
  simp only [sendSessionTicket, wp_bind, wp_getHello, hh]
  cases ht : hello.ticketSupported
  · simp
  · simp only [if_true, wp_bind, wp_getSuite, hs, wp_get]
    split
    · simp
    · rename_i ticket hticket
      exact wp_hashSend _ _ (Or.inr ⟨trivial, ticket, hticket, rfl⟩)

theorem sendFinished_spec (copyOut : Bool) {s : CipherSuite} (hs : w.hs.suite = some s) :
    wp (sendFinished env copyOut)
      (fun _ w' =>
        let verifyData := env.serverSum w.hs.finishedHash w.hs.masterSecret
        let w₁ : World := { w with wire := w.wire ++ [.send .changeCipherSpec] }
        w' = { w₁.hashSend (.finished verifyData) with
          c := { w.c with
            cipherSuite := s.id,
            serverFinished :=
              if copyOut then copyBytes w.c.serverFinished verifyData else w.c.serverFinished },
          hashCalls := w.hashCalls ++ [⟨.serverSum, w.hs.finishedHash, w₁.wire⟩] })
      (StopsSynced False w) w := by
  simp only [sendFinished, wp_bind, wp_writeRecord, wp_recordHashCall, wp_get, wp_finishedHashWrite,
    wp_getSuite, hs, wp_modifyConn]
  split
  · -- the ChangeCipherSpec record failed, before the call
    exact stopsSynced_error.mpr (.of_eq rfl)
  split
  · -- the Finished record failed, after the call was logged
    exact stopsSynced_error.mpr (consistent_serverSum rfl)
  · cases copyOut <;> simp [World.hashSend, hs]

theorem readNextProtocol_spec {hello : ServerHelloMsg} (hh : w.hs.hello = some hello) :
    wp (readNextProtocol env)
      (fun _ w' => (hello.nextProtoNeg = false ∧ w' = w) ∨
        (hello.nextProtoNeg = true ∧ ∃ proto w₁, Received w (.nextProtocol proto) w₁ ∧
          w' = { w₁.hashWrite (.nextProtocol proto) with c := { w₁.c with clientProtocol := proto } }))
      (StopsCalm False w) w := by
  simp only [readNextProtocol, wp_bind, wp_getHello, hh]
  cases hn : hello.nextProtoNeg
  · simp
  · simp only [if_true]
    refine wp_bind_calm readHandshake_spec rfl ?_
    rintro msg _ ⟨hin, rfl⟩
    rcases msg with _ | _ | _ | _ | _ | _ | _ | _ | _ | proto | _ | _ <;>
      simp only [wp_alertError, stopsCalm_error]
    case nextProtocol =>
      simp only [wp_bind, wp_finishedHashWrite, wp_modifyConn]
      exact Or.inr ⟨trivial, proto, _, ⟨hin, rfl⟩, rfl⟩

theorem readClientFinished_spec (copyOut : Bool) :
    wp (readClientFinished env copyOut)
      (fun _ w' => ∃ verifyData w₁, Received w (.finished verifyData) w₁ ∧
        verifyData = env.clientSum w.hs.finishedHash w.hs.masterSecret ∧
        w' = { w₁.hashWrite (.finished verifyData) with
          c := { w₁.c with
            clientFinished :=
              if copyOut then copyBytes w₁.c.clientFinished verifyData else w₁.c.clientFinished },
          hashCalls := w.hashCalls ++ [⟨.clientSum, w.hs.finishedHash, w₁.wire⟩] })
      (StopsSynced False w) w := by
  unfold readClientFinished
  refine wp_bind_of (wp_mono readHandshake_spec (fun _ _ => id) fun _ _ h => h.stopsSynced id) ?_
  rintro msg _ ⟨hin, rfl⟩
  rcases msg with _ | _ | _ | _ | _ | _ | _ | _ | _ | _ | verifyData | _ <;>
    simp only [wp_alertError, stopsSynced_error]
  case finished =>
    simp only [wp_bind, wp_recordHashCall, wp_get]
    split
    · simp only [wp_bind, wp_alertError, stopsSynced_error]
      exact consistent_clientSum rfl
    · rename_i hv
      have hv : env.clientSum w.hs.finishedHash w.hs.masterSecret = verifyData :=
        Decidable.of_not_not fun h => hv (Or.inr h)
      subst hv
      cases copyOut <;>
        simp only [wp_bind, wp_finishedHashWrite, wp_modifyConn, if_true, if_false,
          Bool.false_eq_true, wp_pure] <;>
        exact ⟨_, _, ⟨hin, rfl⟩, rfl, rfl⟩
  all_goals exact .of_eq rfl

theorem doResumeHandshake_spec {s : CipherSuite} {ch : ClientHelloMsg} {hello : ServerHelloMsg}
    {st : SessionState} (hs : w.hs.suite = some s) (hch : w.hs.clientHello = some ch)
    (hh : w.hs.hello = some hello) (hst : w.hs.sessionState = some st) :
    wp (doResumeHandshake env)
      (fun _ w' => ∃ hello' w₁ pub w₂,
        hello' = { hello with cipherSuite := s.id, sessionID := ch.sessionID,
                              ticketSupported := st.usedOldKey } ∧
        w₁ = { w with
          hs := { w.hs with
            hello := some hello',
            finishedHash := ⟨w.c.vers, s.id, [.clientHello ch, .serverHello hello'], none⟩ },
          wire := w.wire ++ [.send (.handshake (.serverHello hello'))] } ∧
        ((st.certificates = [] ∧ w₂ = w₁) ∨
          (st.certificates ≠ [] ∧ CertsProcessed env w₁ st.certificates pub w₂)) ∧
        w' = { w₂ with hs := { w₂.hs with masterSecret := st.masterSecret } })
      (StopsCalm False w) w := by
  simp only [doResumeHandshake, wp_bind, wp_getSuite, hs, wp_modifyHello, hh, wp_getClientHello, hch,
    wp_get, wp_deref, hst, wp_modifyHs, wp_discardHandshakeBuffer, wp_finishedHashWrite, wp_getHello,
    wp_writeRecord, newFinishedHash, FinishedHash.write, List.nil_append, List.singleton_append,
    Option.map_none']
  split
  · simp
  · by_cases hc : st.certificates = []
    · simp [hc]
    · simp only [hc, ne_eq, not_false_eq_true, if_true]
      refine wp_bind_calm (processCertsFromClient_spec st.certificates) rfl ?_
      intro pub w₂ hproc
      exact ⟨_, _, pub, w₂, rfl, rfl, Or.inr ⟨trivial, hproc⟩, rfl⟩

end

end Gnetcli.Tls
