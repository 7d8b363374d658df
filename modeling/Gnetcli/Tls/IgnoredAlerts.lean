import Gnetcli.Tls.Sessions

/-!
# Runs that go on after an ignored alert

Several error sites of the handshake read (lines 460–467, 580–595, 874–881)

    err := c.sendAlert(alert)
    if err != nil { return err }
    return err

The inner `err` shadows the callee's error, so when `sendAlert` returns nil
the site returns nil. `doFullHandshake` then returns normally after a failed
`generateServerKeyExchange`, `processClientKeyExchange` or `writeKeyLog`, and
`serverHandshake` goes on to `establishKeys` and `readFinished`;
`processCertsFromClient` returns no key and no error for a chain
`VerifyPeerCertificate` rejected.

- `sendServerKeyExchange_ignored`, `readClientKeyExchange_ignored`,
  `processCertsFromClient_ignored`: in every state, each of these sites returns
  normally when its callee fails and `sendAlert` returns nil;
- **`ignored_alert_completes_handshake`**: a run whose key agreement fails,
  with a `sendAlert` that returns nil, completes the handshake with keys from
  an empty master secret, and a rejected client chain comes back as no key
  and no error;
- **`serverHandshake_sends_no_alert`**: when every alert fails, a run that
  returns nil sent no alert, so no check failed in it.
-/

namespace Gnetcli.Tls

section

variable {env : Env} {w : World}

/-- A failed `generateServerKeyExchange` whose alert `sendAlert` ignored
returns `false` with only the alert written; `doFullHandshake` then returns. -/
theorem sendServerKeyExchange_ignored (ka : KeyAgreement) {ch : ClientHelloMsg} {hello : ServerHelloMsg}
    (hch : w.hs.clientHello = some ch) (hh : w.hs.hello = some hello) {err : TlsError}
    (hg : ka.generateServerKeyExchange w.c.config w.hs.cert ch hello = .error err)
    (hnil : env.sendAlert w.wire .handshakeFailure = none) :
    wp (sendServerKeyExchange env ka)
      (fun ok w' => ok = false ∧ w' = { w with wire := w.wire ++ [.alert .handshakeFailure] })
      (fun _ _ => False) w := by
  simp [sendServerKeyExchange, hch, hh, hg, hnil]

/-- A ClientKeyExchange that `processClientKeyExchange` rejects, or whose master
secret `writeKeyLog` fails on, returns `false` when `sendAlert` returns nil. -/
theorem readClientKeyExchange_ignored (ka : KeyAgreement) (ciphertext : Bytes) {s : CipherSuite}
    {ch : ClientHelloMsg} {hello : ServerHelloMsg} (hs : w.hs.suite = some s)
    (hch : w.hs.clientHello = some ch) (hh : w.hs.hello = some hello)
    (hfail : (∃ err, ka.processClientKeyExchange w.c.config w.hs.cert ciphertext w.c.vers = .error err) ∨
      ∃ pms err, ka.processClientKeyExchange w.c.config w.hs.cert ciphertext w.c.vers = .ok pms ∧
        w.c.config.writeKeyLog ch.random
          (env.masterFromPreMasterSecret w.c.vers s.id pms ch.random hello.random) = some err)
    (hnil : ∀ a, env.sendAlert w.wire a = none) :
    wp (readClientKeyExchange env ka (.clientKeyExchange ciphertext)) (fun ok _ => ok = false)
      (fun _ _ => False) w := by
  rcases hfail with ⟨err, hp⟩ | ⟨pms, err, hp, hk⟩
  · simp [readClientKeyExchange, hp, hnil]
  · simp [readClientKeyExchange, hp, hs, hch, hh, hk, hnil]

/-- A parsed chain that `VerifyPeerCertificate` rejects comes back as no key
and no error when `sendAlert` returns nil, and no peer certificate is stored. -/
theorem processCertsFromClient_ignored (certificates : List Bytes) {certs : List X509Certificate}
    {f : List Bytes → List (List X509Certificate) → Option TlsError} {err : TlsError}
    (hp : certificates.mapM (parseCertificate env) = .ok certs)
    (hv : w.c.config.clientAuth.toNat < ClientAuthType.verifyClientCertIfGiven.toNat)
    (hf : w.c.config.verifyPeerCertificate = some f) (hrej : f certificates w.c.verifiedChains = some err)
    (hnil : env.sendAlert w.wire .badCertificate = none) :
    wp (processCertsFromClient env certificates)
      (fun pub w' => pub = none ∧ w'.c.peerCertificates = w.c.peerCertificates) (fun _ _ => False) w := by
  simp only [processCertsFromClient, wp_bind, wp_modifyHs, hp]
  simp [verifyClientCertificates, Nat.not_le.mpr hv, callVerifyPeerCertificate, hf, hrej, hnil]

end

/-! ### A run through an ignored alert -/

/-- A key agreement whose ServerKeyExchange always fails. -/
def failingKeyAgreement : KeyAgreement :=
  { generateServerKeyExchange := fun _ _ _ _ => .error (.external 0),
    processClientKeyExchange := fun _ _ _ _ => .ok [1] }

/-- Callees whose only suite, `0xc02f`, uses `failingKeyAgreement`, and whose
`sendAlert` always returns nil. -/
def quietEnv : Env :=
  { strictEnv with
    cipherSuites := [{ plainSuite 0xc02f with ka := fun _ => failingKeyAgreement }],
    sendAlert := fun _ _ => none }

/-- `plainConfig` enabling suite `0xc02f`. -/
def quietConfig : Config := { plainConfig with cipherSuites := [0xc02f] }

/-- A ClientHello for `0xc02f`, then ChangeCipherSpec and a Finished matching
`clientSum`. -/
def quietInput : List (Except TlsError Record) :=
  [.ok (.handshake (.clientHello { ticketHello with cipherSuites := [0xc02f] })), .ok .changeCipherSpec,
    .ok (.handshake (.finished [7]))]

/-- `plainConfig` with a `VerifyPeerCertificate` that rejects every chain. -/
def rejectingConfig : Config := { plainConfig with verifyPeerCertificate := some fun _ _ => some (.external 4) }

/-- The key agreement fails, `sendAlert` returns nil, and the run completes:
it sent the alert, installed keys, read the client's ChangeCipherSpec and
Finished, and ends with an empty master secret; and a chain
`VerifyPeerCertificate` rejects comes back as no key and no error. -/
theorem ignored_alert_completes_handshake :
    (∃ w, serverHandshake quietEnv (World.init quietConfig quietInput) = .ok () w ∧
      w.c.handshakeComplete = true ∧ w.c.inCipher.isSome = true ∧ w.hs.masterSecret = [] ∧
      .alert .handshakeFailure ∈ w.wire ∧ .recv .changeCipherSpec ∈ w.wire) ∧
    ∃ w, processCertsFromClient quietEnv [[1]] (World.init rejectingConfig []) = .ok none w :=
  ⟨⟨_, rfl, rfl, rfl, rfl, by decide, by decide⟩, _, rfl⟩

/-! ## When alerts fail -/

theorem FullHandshakeWord.no_alert {ch : ClientHelloMsg} {clientAuth : ClientAuthType} {noCerts : Bool}
    {hello : ServerHelloMsg} {ke : Option Bytes} {wire : List WireEvent}
    (h : FullHandshakeWord ch clientAuth noCerts hello ke wire) (a : Alert) : .alert a ∉ wire := by
  obtain ⟨server, client, cfin, sfin, -, -, ⟨npn, vd, -, rfl⟩, ⟨ticket, vd', -, rfl⟩, rfl⟩ := h
  simp [sends, recvs]

theorem ResumeHandshakeWord.no_alert {ch : ClientHelloMsg} {hello : ServerHelloMsg} {wire : List WireEvent}
    (h : ResumeHandshakeWord ch hello wire) (a : Alert) : .alert a ∉ wire := by
  obtain ⟨sfin, cfin, ⟨ticket, vd', -, rfl⟩, ⟨npn, vd, -, rfl⟩, rfl⟩ := h
  simp [sends, recvs]

section

variable {env : Env}

/-- **No alert in a completed run.** When every alert fails, a run that
returns nil wrote no alert: each check that sends one ends the run with an
error. -/
theorem serverHandshake_sends_no_alert (hA : AlertsFail env) (config : Config)
    (input : List (Except TlsError Record)) :
    wp (serverHandshake env) (fun _ w => ∀ a, .alert a ∉ w.wire) (fun _ _ => True)
      (World.init config input) := by
  refine wp_mono (serverHandshake_run config input) ?_ fun _ _ _ => trivial
  rintro _ w ⟨ch, w₀, h⟩
  obtain ⟨hello, -, ⟨-, s, ke, -, -, hw⟩ | ⟨-, st, -, -, hw⟩⟩ := (h.exchanged hA).word
  · exact hw.no_alert
  · exact hw.no_alert

theorem strict_server_sends_no_alert :
    AlertsFail chainEnv ∧
      (∃ w, serverHandshake chainEnv (World.init authConfig (authInput [7])) = .ok () w ∧
        w.c.peerCertificates ≠ [] ∧ w.c.didResume = false) ∧
      wp (serverHandshake chainEnv) (fun _ w => ∀ a, .alert a ∉ w.wire) (fun _ _ => True)
        (World.init authConfig (authInput [7])) :=
  have hA : AlertsFail chainEnv := fun _ _ => rfl
  ⟨hA, authRun_completes, serverHandshake_sends_no_alert hA authConfig (authInput [7])⟩

end

end Gnetcli.Tls
