import Gnetcli.Tls.ServerHandshake

/-!
# What every run of `serverHandshake` guarantees

Three consequences of `serverHandshake_run`, for every configuration, every
callee behaviour and every sequence of client records:

- **`serverHandshake_negotiated`**: a run that returns nil agreed on a version
  and a suite both sides accept (`AcceptableSuite`, the conditions of
  `setCipherSuite` in the words of the source), on the full path, on the
  abbreviated one, and on the full path after a refused ticket;
- **`serverHandshake_transcript`**: every call of `hashForClientCertificate`,
  `serverSum` and `clientSum` saw exactly the handshake messages exchanged before
  the message it signs, produces or checks; a run that returns nil sent a
  Finished over the whole transcript and checked the client's against one;
- **`serverHandshake_no_panic`**: when `sendAlert` fails for every alert
  (`AlertsFail`, as in crypto/tls) and `getCertificate` returns a certificate
  whenever it returns no error (`CertificatesPresent`), no run panics.

The suite lemmas go from `firstQualifying` and `ticketSuite` back to
`setCipherSuite`'s checks (`suite_qualifies`).
-/

namespace Gnetcli.Tls

/-! ## The negotiated suite -/

/-- A negotiated suite id both sides accept, in the terms of lines 281–323 and
906–953: offered by the client, enabled in the configuration, with a table
entry whose requirements hold. -/
def AcceptableSuite (env : Env) (ch : ClientHelloMsg) (config : Config) (cert : Option Certificate)
    (vers id : Nat) : Prop :=
  id ∈ ch.cipherSuites ∧ id ∈ config.cipherSuites ∧ ∃ s, lookupCipherSuite env.cipherSuites id = some s ∧
    (s.flags.ecdhe = true →
      (ch.supportedCurves.any fun curve => config.curvePreferences.contains curve) = true ∧
        ch.supportedPoints.contains pointFormatUncompressed = true) ∧
    (s.flags.ecdhe = true → s.flags.ecdsa = true → cert.any (·.privateKey.signsECDSA) = true) ∧
    (s.flags.rsa = true →
      cert.any (·.privateKey.signsRSA) = true ∧ cert.any (·.privateKey.decryptsRSA) = true) ∧
    (s.flags.dhe = true → config.dhParameters = true) ∧
    (s.flags.tls12 = true → versionTLS12 ≤ vers)

theorem lookupCipherSuite_id {table : List CipherSuite} {id : Nat} {s : CipherSuite}
    (h : lookupCipherSuite table id = some s) : s.id = id := by
  simpa using List.find?_some h

/-- What `setCipherSuite` accepting `id` says. -/
theorem selectCipherSuite_some {table : List CipherSuite} {hs : ServerHandshakeState} {config : Config}
    {id version : Nat} {supported : List Nat} {s : CipherSuite}
    (h : selectCipherSuite table hs config id version supported = some s) :
    id ∈ supported ∧ lookupCipherSuite table id = some s ∧ suiteAcceptable hs config version s = true := by
  rw [selectCipherSuite_eq] at h
  split at h
  · rcases hl : lookupCipherSuite table id with _ | s'
    · simp [hl] at h
    · simp only [hl, Option.filter] at h
      split at h <;> simp_all
  · cases h

/-- `setCipherSuite` accepted `s` for an id in both lists, at the negotiated
version. -/
def SuiteQualifies (env : Env) (ch : ClientHelloMsg) (w : World) (s : CipherSuite) : Prop :=
  s.id ∈ ch.cipherSuites ∧ s.id ∈ w.c.config.cipherSuites ∧
    lookupCipherSuite env.cipherSuites s.id = some s ∧ suiteAcceptable w.hs w.c.config w.c.vers s = true

section

variable {env : Env} {config : Config} {input : List (Except TlsError Record)} {ch : ClientHelloMsg}
  {w₀ : World} {s : CipherSuite}

theorem ticketSuite_qualifies {st : SessionState} (ht : ticketSuite env w₀ ch st = some s) :
    SuiteQualifies env ch w₀ s := by
  simp only [ticketSuite] at ht
  split at ht
  · rename_i hv
    obtain ⟨hin, hl, ha⟩ := selectCipherSuite_some ht
    rw [SuiteQualifies, lookupCipherSuite_id hl]
    exact ⟨by simpa using hv.2, hin, hl, hv.1 ▸ ha⟩
  · cases ht

/-- A suite `readClientHello` left, by either way it can install one, passed
`setCipherSuite` for an id both lists hold, at the negotiated version. -/
theorem ResumeDecision.suite_qualifies {b : Bool} (hd : ResumeDecision env ch w₀ b)
    (hs : w₀.hs.suite = some s) : SuiteQualifies env ch w₀ s := by
  cases b with
  | true =>
    obtain ⟨st, s', -, hs', -, -, ht, -⟩ := hd
    cases hs.symm.trans hs'
    exact ticketSuite_qualifies ht
  | false =>
    rcases hd with ⟨hfirst, -⟩ | ⟨st, s', -, hs', -, -, ht, -⟩
    · obtain ⟨id, hid, hsel⟩ := List.exists_of_findSome?_eq_some (hs.symm.trans hfirst).symm
      obtain ⟨hin, hl, ha⟩ := selectCipherSuite_some hsel
      rw [SuiteQualifies, lookupCipherSuite_id hl]
      unfold preferenceLists at hid hin
      split at hid <;> exact ⟨by simp_all, by simp_all, hl, ha⟩
    · cases hs.symm.trans hs'
      exact ticketSuite_qualifies ht

/-- From `HelloDone`, `setCipherSuite`'s checks are the conditions of
`AcceptableSuite`. -/
theorem HelloDone.acceptableSuite (hd : HelloDone config input ch w₀) (hin : s.id ∈ ch.cipherSuites)
    (hin' : s.id ∈ w₀.c.config.cipherSuites) (hl : lookupCipherSuite env.cipherSuites s.id = some s)
    (ha : suiteAcceptable w₀.hs w₀.c.config w₀.c.vers s = true) :
    AcceptableSuite env ch w₀.c.config w₀.hs.cert w₀.c.vers s.id := by
  refine ⟨hin, hin', s, hl, ?_⟩
  simp only [suiteAcceptable, hd.ellipticOk_eq, hd.ecdsaOk_eq, hd.rsaSignOk_eq, hd.rsaDecryptOk_eq,
    Bool.and_eq_true, Bool.or_eq_true, Bool.not_eq_true', decide_eq_true_eq, Bool.not_eq_false'] at ha
  obtain ⟨⟨⟨h₁, h₂⟩, h₃⟩, h₄⟩ := ha
  refine ⟨fun he => ?_, fun he hd' => ?_, fun hr => ?_, fun hd' => ?_, fun ht => ?_⟩
  · exact (by simpa [he] using h₁ : _ ∧ _).1
  · exact (by simpa [he, hd'] using h₁ : _ ∧ _).2
  · simpa [hr, and_comm] using h₂
  · simpa [hd'] using h₃
  · simpa [ht] using h₄

/-- A resumed run holds the session of the ticket the client presented: the
ticket's version, suite, master secret and client certificates. -/
theorem Completed.resumedSession {w : World} (h : Completed env config input ch w₀ w)
    (hr : w.c.didResume = true) :
    ∃ st, w.c.config.decryptTicket ch.sessionTicket = some st ∧ st.vers = w.c.vers ∧
      st.cipherSuite = w.c.cipherSuite ∧ st.masterSecret = w.hs.masterSecret ∧
      st.certificates = w.hs.certsFromClient := by
  have hd := h.decision
  rw [hr] at hd
  obtain ⟨st, s, hst, hs, -, hdec, ht, -⟩ := hd
  obtain ⟨st', hst', hms, hcerts⟩ := h.resumed hr
  cases hst.symm.trans hst'
  obtain ⟨s', hs', hcs⟩ := h.cipherSuite
  cases hs.symm.trans hs'
  simp only [ticketSuite] at ht
  split at ht
  · rename_i hv
    obtain ⟨-, hl, -⟩ := selectCipherSuite_some ht
    exact ⟨st, h.keeps.config ▸ hdec, h.keeps.vers ▸ hv.1.symm, (lookupCipherSuite_id hl).symm.trans hcs.symm,
      hms.symm, hcerts.symm⟩
  · cases ht

end

/-! ## The three guarantees -/

/-- `getCertificate` returns a certificate whenever it returns no error, for the
configuration and for every one `GetConfigForClient` may put in its place. -/
def CertificatesPresent (config : Config) : Prop :=
  ∀ info cfg, ConfigForClient config info cfg → (cfg.getCertificate info).2 = none →
    (cfg.getCertificate info).1.isSome

section

variable {env : Env}

/-- **Negotiated parameters.** A run that returns nil, full, abbreviated, or
full after a refused ticket, used the version `mutualVersion` gives for the
ClientHello, passed the fallback check, and set `c.cipherSuite` to an id both
sides accept at that version; a resumed run kept the ticket's version and suite. -/
theorem serverHandshake_negotiated (config : Config) (input : List (Except TlsError Record)) :
    wp (serverHandshake env)
      (fun _ w => ∃ ch, w.hs.clientHello = some ch ∧ ConfigForClient config ch.info w.c.config ∧
        w.c.config.mutualVersion ch.vers = (w.c.vers, true) ∧
        (ch.cipherSuites.contains tlsFallbackSCSV = true → w.c.config.maxVersion ≤ ch.vers) ∧
        AcceptableSuite env ch w.c.config w.hs.cert w.c.vers w.c.cipherSuite ∧
        (w.c.didResume = true → ∃ st, w.c.config.decryptTicket ch.sessionTicket = some st ∧
          st.vers = w.c.vers ∧ st.cipherSuite = w.c.cipherSuite))
      (fun _ _ => True) (World.init config input) := by
  refine wp_mono (serverHandshake_run config input) ?_ fun _ _ _ => trivial
  rintro _ w ⟨ch, w₀, h⟩
  have hk := h.keeps
  obtain ⟨s, hs, hcs⟩ := h.cipherSuite
  obtain ⟨hin, hin', hl, ha⟩ := h.decision.suite_qualifies hs
  refine ⟨ch, hk.clientHello.trans h.hello.clientHello_eq, hk.config ▸ h.hello.configForClient,
    by rw [hk.config, hk.vers]; exact h.hello.mutualVersion_eq, fun hf => ?_, ?_, fun hr => ?_⟩
  · have := h.hello.noFallback
    simp only [hf, Bool.true_and, decide_eq_false_iff_not, Nat.not_lt] at this
    rw [hk.config]
    exact this
  · rw [hk.config, hk.vers, hk.cert, hcs]
    exact h.hello.acceptableSuite hin hin' hl ha
  · obtain ⟨st, hdec, hv, hc, -⟩ := h.resumedSession hr
    exact ⟨st, hdec, hv, hc⟩

/-- **Transcript agreement.** In every run, every logged call of
`hashForClientCertificate`, `serverSum` and `clientSum` is consistent; a run
that returns nil sent its Finished over every handshake message before it, and
accepted only a client Finished equal to `clientSum` over every handshake
message before that one. -/
theorem serverHandshake_transcript (config : Config) (input : List (Except TlsError Record)) :
    wp (serverHandshake env)
      (fun _ w => (∀ c ∈ w.hashCalls, c.Consistent) ∧ ServerFinishedSent env w ∧
        ClientFinishedChecked env w)
      (fun _ w => ∀ c ∈ w.hashCalls, c.Consistent) (World.init config input) :=
  wp_mono (serverHandshake_run config input)
    (fun _ _ ⟨_, _, h⟩ => ⟨h.calls, h.serverFinished, h.clientFinished⟩) fun _ _ h => h.1

end

/-! ## A server and a client to run

The witnesses below run `serverHandshake` on a server with one plain suite
whose alerts fail, and a client that presents an RSA certificate and proves its
key: the run goes through every optional message of the full handshake but
OCSP, NPN and the ServerKeyExchange. -/

/-- A certificate with an RSA key that signs and decrypts. -/
def rsaCertificate : Certificate :=
  { certificate := [[1]], privateKey := ⟨true, true, .rsa 3⟩, ocspStaple := [],
    signedCertificateTimestamps := [] }

/-- A configuration whose `getCertificate` always returns `rsaCertificate`. -/
def plainConfig : Config :=
  { getConfigForClient := none, preferServerCipherSuites := false, sessionTicketsDisabled := true,
    clientAuth := .noClientCert, clientCAs := none, dhParameters := false, nextProtos := [],
    verifyPeerCertificate := none, mutualVersion := fun v => (v, true), maxVersion := versionTLS12,
    curvePreferences := [], cipherSuites := [], rand := ⟨List.replicate 32 0, rfl, none⟩,
    getCertificate := fun _ => (some rsaCertificate, none), writeKeyLog := fun _ _ => none, time := 0,
    encryptTicket := fun _ => .ok [], decryptTicket := fun _ => none }

/-- Callees whose `sendAlert` always returns an error. -/
def strictEnv : Env :=
  { cipherSuites := [], supportedSignatureAlgorithms := [], sendAlert := fun _ _ => some (.external 0),
    writeRecord := fun _ _ => none, flush := fun _ => none, mutualProtocol := fun ps _ => (ps.headD "", true),
    parseCertificate := fun _ => .ok (.rsa 5), verify := fun _ _ => .ok [],
    masterFromPreMasterSecret := fun _ _ _ _ _ => [9],
    keysFromMasterSecret := fun _ _ _ _ _ _ _ _ => ⟨[], [], [], [], [], []⟩,
    serverSum := fun _ _ => [8], clientSum := fun _ _ => [7], handshakeHash := fun _ _ _ => .ok ([], 0),
    unmarshalECDSA := fun _ => .error (.external 2), ecdsaVerify := fun _ _ _ => false,
    verifyPKCS1v15 := fun _ _ _ _ => none }

/-- A table entry with no flag: every check of `setCipherSuite` passes. -/
def plainSuite (id : Nat) : CipherSuite :=
  { id, keyLen := 16, macLen := 20, ivLen := 16,
    ka := fun _ => ⟨fun _ _ _ _ => .ok none, fun _ _ _ _ => .ok []⟩,
    flags := ⟨false, false, false, false, false, false⟩, aead := false }

/-- Callees with the plain suite `0x002f` and failing alerts. -/
def chainEnv : Env := { strictEnv with cipherSuites := [plainSuite 0x002f] }

/-- A TLS 1.2 ClientHello offering `0x002f` then `0x0035`, with a ticket. -/
def ticketHello : ClientHelloMsg :=
  { vers := versionTLS12, random := [2], sessionID := [], cipherSuites := [0x002f, 0x0035],
    compressionMethods := [compressionNone], nextProtoNeg := false, serverName := "", ocspStapling := false,
    scts := false, supportedCurves := [], supportedPoints := [], ticketSupported := true,
    sessionTicket := [1], signatureAndHashes := [], secureRenegotiation := [],
    secureRenegotiationSupported := false, alpnProtocols := [] }

/-- A TLS 1.2 ClientHello offering `0x002f` with the given ticket. -/
def chainHello (ticket : Bytes) : ClientHelloMsg :=
  { ticketHello with cipherSuites := [0x002f], sessionTicket := ticket }

/-- `plainConfig` with tickets on, suite `0x002f`, and client certificates required
and verified. -/
def authConfig : Config :=
  { plainConfig with
    sessionTicketsDisabled := false, clientAuth := .requireAndVerifyClientCert, cipherSuites := [0x002f] }

/-- A client that presents a certificate and proves its key: a ClientHello with
no ticket, Certificate, ClientKeyExchange, a CertificateVerify whose algorithm the
RSA key implies, ChangeCipherSpec, and a Finished carrying `verifyData`. -/
def authInput (verifyData : Bytes) : List (Except TlsError Record) :=
  [.ok (.handshake (.clientHello (chainHello []))), .ok (.handshake (.certificate [[1]])),
    .ok (.handshake (.clientKeyExchange [])), .ok (.handshake (.certificateVerify ⟨false, ⟨0, 0⟩, [3]⟩)),
    .ok .changeCipherSpec, .ok (.handshake (.finished verifyData))]

/-- The state `serverHandshake` ends in, whether it returned nil or not. -/
def finalWorld (env : Env) (config : Config) (input : List (Except TlsError Record)) : World :=
  match serverHandshake env (World.init config input) with
  | .ok _ w => w
  | .error _ w => w

theorem authConfig_certificatesPresent : CertificatesPresent authConfig := by
  rintro info cfg (⟨-, rfl⟩ | ⟨f, hf, -⟩) -
  · rfl
  · cases hf

/-- With the Finished `clientSum` gives, the client authenticates and the full
handshake completes. -/
theorem authRun_completes :
    ∃ w, serverHandshake chainEnv (World.init authConfig (authInput [7])) = .ok () w ∧
      w.c.peerCertificates ≠ [] ∧ w.c.didResume = false :=
  ⟨finalWorld chainEnv authConfig (authInput [7]), rfl, by decide, rfl⟩

/-- With another Finished, the run stops at the client's Finished. -/
theorem authRun_stops : ∃ e w, serverHandshake chainEnv (World.init authConfig (authInput [6])) = .error e w :=
  ⟨_, finalWorld chainEnv authConfig (authInput [6]), rfl⟩

section

variable {env : Env}

/-- **No panic.** When every alert fails and the certificate is there, no run of
`serverHandshake` panics: no nil dereference, no slice out of range, and no
`hashForClientCertificate` after the buffer was discarded. -/
theorem serverHandshake_no_panic {config : Config} (hA : AlertsFail env) (hC : CertificatesPresent config)
    (input : List (Except TlsError Record)) :
    wp (serverHandshake env) (fun _ _ => True) (fun e _ => ∀ p, e ≠ .panic p) (World.init config input) := by
  refine wp_mono (serverHandshake_run config input) (fun _ _ _ => trivial) ?_
  rintro e w ⟨-, hp⟩ p rfl
  rcases hp p rfl with ⟨w, -, -, -, pre, -, hnil⟩ | ⟨ch, w, hd, hcert⟩
  · simpa [hnil] using hA pre .internalError
  · have := hC ch.info w.c.config hd.configForClient hd.getCertificate_ok
    rw [← hd.cert_eq, hcert] at this
    cases this

theorem strict_server_never_panics :
    AlertsFail chainEnv ∧ CertificatesPresent authConfig ∧
      (∃ e w, serverHandshake chainEnv (World.init authConfig (authInput [6])) = .error e w) ∧
      wp (serverHandshake chainEnv) (fun _ _ => True) (fun e _ => ∀ p, e ≠ .panic p)
        (World.init authConfig (authInput [6])) :=
  have hA : AlertsFail chainEnv := fun _ _ => rfl
  ⟨hA, authConfig_certificatesPresent, authRun_stops,
    serverHandshake_no_panic hA authConfig_certificatesPresent (authInput [6])⟩

end

/-! ## What an honest client faces when alerts fail -/

section

variable {env : Env}

/-- **Client authentication.** When every alert fails, a run that returns nil,
full or abbreviated, leaves the peer certificates the `ClientAuth` policy
demands, verified when it asks, accepted by `VerifyPeerCertificate`, and, in a
full handshake, proven by a CertificateVerify signed with the leaf's key over
the transcript hash of the messages before it. -/
theorem serverHandshake_client_auth (hA : AlertsFail env) (config : Config)
    (input : List (Except TlsError Record)) :
    wp (serverHandshake env)
      (fun _ w => ClientAuthChecked env w ∧ (w.c.didResume = false → ∀ leaf rest,
        w.c.peerCertificates = leaf :: rest → CertificateVerified env leaf.publicKey w))
      (fun _ _ => True) (World.init config input) :=
  wp_mono (serverHandshake_run config input)
    (fun _ _ ⟨_, _, h⟩ => ⟨(h.exchanged hA).checked, (h.exchanged hA).signed⟩) fun _ _ _ => trivial

theorem strict_server_checks_clients :
    AlertsFail chainEnv ∧
      (∃ w, serverHandshake chainEnv (World.init authConfig (authInput [7])) = .ok () w ∧
        w.c.peerCertificates ≠ [] ∧ w.c.didResume = false) ∧
      wp (serverHandshake chainEnv)
        (fun _ w => ClientAuthChecked chainEnv w ∧ (w.c.didResume = false → ∀ leaf rest,
          w.c.peerCertificates = leaf :: rest → CertificateVerified chainEnv leaf.publicKey w))
        (fun _ _ => True) (World.init authConfig (authInput [7])) :=
  have hA : AlertsFail chainEnv := fun _ _ => rfl
  ⟨hA, authRun_completes, serverHandshake_client_auth hA authConfig (authInput [7])⟩

/-- **Message order.** When every alert fails, a run that returns nil exchanged
a word of the handshake grammar as this server configures it: the full
handshake, with the optional messages its suite, OCSP, key agreement,
`ClientAuth`, NPN and ticket settings call for, or the abbreviated one, with a
ticket exactly when the resumed one came under an old key. -/
theorem serverHandshake_message_order (hA : AlertsFail env) (config : Config)
    (input : List (Except TlsError Record)) :
    wp (serverHandshake env)
      (fun _ w => ∃ ch hello, w.hs.clientHello = some ch ∧ w.hs.hello = some hello ∧
        ((w.c.didResume = false ∧ ∃ s ke, w.hs.suite = some s ∧
            (s.ka w.c.vers).generateServerKeyExchange w.c.config w.hs.cert ch hello = .ok ke ∧
            FullHandshakeWord ch w.c.config.clientAuth s.flags.noCerts hello ke w.wire) ∨
          (w.c.didResume = true ∧ ∃ st, w.hs.sessionState = some st ∧
            hello.ticketSupported = st.usedOldKey ∧ ResumeHandshakeWord ch hello w.wire)))
      (fun _ _ => True) (World.init config input) := by
  refine wp_mono (serverHandshake_run config input) ?_ fun _ _ _ => trivial
  rintro _ w ⟨ch, w₀, h⟩
  obtain ⟨hello, hh, hword⟩ := (h.exchanged hA).word
  exact ⟨ch, hello, h.keeps.clientHello.trans h.hello.clientHello_eq, hh, hword⟩

theorem strict_server_message_order :
    AlertsFail chainEnv ∧
      (∃ w, serverHandshake chainEnv (World.init authConfig (authInput [7])) = .ok () w ∧
        w.c.peerCertificates ≠ [] ∧ w.c.didResume = false) ∧
      wp (serverHandshake chainEnv)
        (fun _ w => ∃ ch hello, w.hs.clientHello = some ch ∧ w.hs.hello = some hello ∧
          ((w.c.didResume = false ∧ ∃ s ke, w.hs.suite = some s ∧
              (s.ka w.c.vers).generateServerKeyExchange w.c.config w.hs.cert ch hello = .ok ke ∧
              FullHandshakeWord ch w.c.config.clientAuth s.flags.noCerts hello ke w.wire) ∨
            (w.c.didResume = true ∧ ∃ st, w.hs.sessionState = some st ∧
              hello.ticketSupported = st.usedOldKey ∧ ResumeHandshakeWord ch hello w.wire)))
        (fun _ _ => True) (World.init authConfig (authInput [7])) :=
  have hA : AlertsFail chainEnv := fun _ _ => rfl
  ⟨hA, authRun_completes, serverHandshake_message_order hA authConfig (authInput [7])⟩

end

end Gnetcli.Tls
