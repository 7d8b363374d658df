import Gnetcli.Tls.FullHandshake

/-!
# Client authentication when alerts fail

`processCertsFromClient` and its callers check a client's certificates and then,
on a rejection, return whatever `sendAlert` returned (lines 874–882). crypto/tls's
`sendAlert` never returns nil; this file works under that assumption,
`AlertsFail`, and states what the checks then leave:

- `CertsAccepted`: the accepting branch of `CertsProcessed`, the only one left
  when alerts fail (`CertsProcessed.accepted`);
- `ClientAuthChecked`: what the `ClientAuth` policy demands of the stored peer
  certificates, the verified chains and `VerifyPeerCertificate`, and that
  `certsFromClient` is the chain in DER;
- `ClientCertRead`: how `readClientCertificate` reads the client's Certificate
  (`readClientCertificate_flight`), and that it leaves `ClientAuthChecked`
  (`ClientCertRead.checked`);
- **`doResumeHandshake_flight`**: a resumption, whose certificates come from the
  ticket, leaves `ClientAuthChecked` too.

`Settled` names the parts of the world that the blocks after the key exchange
leave alone; `ClientAuthChecked.of_settled` carries the checks over them.
-/

namespace Gnetcli.Tls

/-- `Conn.sendAlert` returns an error for every alert, as crypto/tls's does. -/
def AlertsFail (env : Env) : Prop := ∀ wire a, (env.sendAlert wire a).isSome

theorem AlertsFail.ne_none {env : Env} (hA : AlertsFail env) (wire : List WireEvent) (a : Alert) :
    env.sendAlert wire a ≠ none :=
  fun h => by simpa [h] using hA wire a

/-- The parts of the world the blocks after the key exchange leave alone. -/
structure Settled where
  config : Config
  vers : Nat
  suite : Option CipherSuite
  masterSecret : Bytes
  peerCertificates : List X509Certificate
  verifiedChains : List (List X509Certificate)
  certsFromClient : List Bytes

def World.settled (w : World) : Settled :=
  ⟨w.c.config, w.c.vers, w.hs.suite, w.hs.masterSecret, w.c.peerCertificates, w.c.verifiedChains,
    w.hs.certsFromClient⟩

/-- `processCertsFromClient` accepted `certificates` (lines 834–901): the chain
parsed, was verified when the policy asks, `VerifyPeerCertificate` accepted it,
and a non-empty one is stored with a usable leaf key. -/
def CertsAccepted (env : Env) (w : World) (certificates : List Bytes) (pub : Option PublicKey)
    (w' : World) : Prop :=
  ∃ certs chains, certificates.mapM (parseCertificate env) = .ok certs ∧
    ChainsAfterVerify env w.c.config certs w.c.verifiedChains chains ∧
    (∀ f, w.c.config.verifyPeerCertificate = some f → f certificates chains = none) ∧
    let w₁ := { w with c := { w.c with verifiedChains := chains },
                       hs := { w.hs with certsFromClient := certificates } }
    ((certs = [] ∧ pub = none ∧ w' = w₁) ∨
      (∃ leaf rest, certs = leaf :: rest ∧ (leaf.publicKey.isECDSA || leaf.publicKey.isRSA) = true ∧
        pub = some leaf.publicKey ∧ w' = { w₁ with c := { w₁.c with peerCertificates := certs } }))

/-- The client-certificate facts a handshake leaves, in the terms of lines
834–901: what the policy requires, the verified chains, and what
`VerifyPeerCertificate` accepted. -/
structure ClientAuthChecked (env : Env) (w : World) : Prop where
  required : (w.c.config.clientAuth = .requireAnyClientCert ∨
    w.c.config.clientAuth = .requireAndVerifyClientCert) → w.c.peerCertificates ≠ []
  notRequested : w.c.config.clientAuth = .noClientCert → w.c.peerCertificates = []
  verified : ClientAuthType.verifyClientCertIfGiven.toNat ≤ w.c.config.clientAuth.toNat →
    ∀ leaf rest, w.c.peerCertificates = leaf :: rest →
      env.verify leaf
        { roots := w.c.config.clientCAs, currentTime := w.c.config.time, intermediates := rest,
          keyUsages := [extKeyUsageClientAuth] } = .ok w.c.verifiedChains
  accepted : ∀ f, w.c.config.verifyPeerCertificate = some f → w.c.peerCertificates ≠ [] →
    f (w.c.peerCertificates.map (·.raw)) w.c.verifiedChains = none
  der : w.hs.certsFromClient = w.c.peerCertificates.map (·.raw)

section

variable {env : Env} {w w' : World} {certificates : List Bytes} {pub : Option PublicKey}

theorem ClientAuthChecked.congr (h : ClientAuthChecked env w) (hc : w'.c = w.c)
    (hd : w'.hs.certsFromClient = w.hs.certsFromClient) : ClientAuthChecked env w' := by
  obtain ⟨h₁, h₂, h₃, h₄, h₅⟩ := h
  exact ⟨hc ▸ h₁, hc ▸ h₂, hc ▸ h₃, hc ▸ h₄, hc ▸ hd ▸ h₅⟩

theorem ClientAuthChecked.of_settled (h : ClientAuthChecked env w) (hs : w'.settled = w.settled) :
    ClientAuthChecked env w' := by
  obtain ⟨hc, -, -, -, hp, hv, hd⟩ := Settled.mk.inj hs
  obtain ⟨h₁, h₂, h₃, h₄, h₅⟩ := h
  exact ⟨hc ▸ hp ▸ h₁, hc ▸ hp ▸ h₂, hc ▸ hp ▸ hv ▸ h₃, hc ▸ hp ▸ hv ▸ h₄, hp ▸ hd ▸ h₅⟩

/-- With no peer certificate and none required, the checks hold. -/
theorem ClientAuthChecked.of_none (hpeer : w.c.peerCertificates = []) (hder : w.hs.certsFromClient = [])
    (hreq : ¬(w.c.config.clientAuth = .requireAnyClientCert ∨
      w.c.config.clientAuth = .requireAndVerifyClientCert)) :
    ClientAuthChecked env w :=
  ⟨fun h => absurd h hreq, fun _ => hpeer, fun _ _ _ h => by simp [hpeer] at h, fun _ _ h => absurd hpeer h,
    by simp [hder, hpeer]⟩

theorem CertsProcessed.accepted (hA : AlertsFail env) (h : CertsProcessed env w certificates pub w') :
    CertsAccepted env w certificates pub w' := by
  obtain ⟨certs, chains, hp, hv, ⟨-, -, hnil, -⟩ | ⟨hacc, hrest⟩⟩ := h
  · exact absurd hnil (hA.ne_none _ _)
  · exact ⟨certs, chains, hp, hv, hacc, hrest⟩

theorem CertsAccepted.frame (h : CertsAccepted env w certificates pub w') :
    w'.kept = w.kept ∧ w'.hs.hello = w.hs.hello ∧ w'.hs.masterSecret = w.hs.masterSecret ∧
      w'.hs.finishedHash = w.hs.finishedHash ∧ w'.wire = w.wire ∧ w'.input = w.input ∧
      w'.hashCalls = w.hashCalls ∧ w'.c.didResume = w.c.didResume ∧
      w'.hs.certsFromClient = certificates := by
  obtain ⟨certs, chains, -, -, -, ⟨-, -, rfl⟩ | ⟨leaf, rest, -, -, -, rfl⟩⟩ := h <;>
    exact ⟨rfl, rfl, rfl, rfl, rfl, rfl, rfl, rfl, rfl⟩

/-- Accepted certificates, from a state with no peer certificate, leave the
client-certificate facts whenever the policy's demands on their number hold. -/
theorem CertsAccepted.checked (h : CertsAccepted env w certificates pub w') (hpeer : w.c.peerCertificates = [])
    (hreq : (w.c.config.clientAuth = .requireAnyClientCert ∨
      w.c.config.clientAuth = .requireAndVerifyClientCert) → certificates ≠ [])
    (hnone : w.c.config.clientAuth = .noClientCert → certificates = []) : ClientAuthChecked env w' := by
  obtain ⟨certs, chains, hp, hv, hacc, ⟨rfl, -, rfl⟩ | ⟨leaf, rest, rfl, -, -, rfl⟩⟩ := h
  · have hc : certificates = [] := by simpa using (mapM_parseCertificate_raw hp).symm
    exact ⟨fun h => absurd hc (hreq h), fun _ => hpeer, fun _ _ _ h => by simp [hpeer] at h,
      fun _ _ h => absurd hpeer h, by simp [hc, hpeer]⟩
  · have hraw := mapM_parseCertificate_raw hp
    refine ⟨fun _ => List.cons_ne_nil _ _, fun h => absurd (hnone h) ?_, fun hge leaf' rest' he => ?_,
      fun f hf _ => hraw ▸ hacc f hf, hraw.symm⟩
    · rw [← hraw]; exact List.cons_ne_nil _ _
    · obtain ⟨rfl, rfl⟩ := List.cons.inj he
      simp only [ChainsAfterVerify, hge, ne_eq, List.cons_ne_nil, not_false_eq_true, and_self, if_true] at hv
      obtain ⟨l, i, he', hv⟩ := hv
      obtain ⟨rfl, rfl⟩ := List.cons.inj he'
      exact hv

/-- A stored peer certificate comes with its key as `pub`. -/
theorem CertsAccepted.pubKey (h : CertsAccepted env w certificates pub w') (hpeer : w.c.peerCertificates = []) :
    ∀ leaf rest, w'.c.peerCertificates = leaf :: rest →
      pub = some leaf.publicKey ∧ (leaf.publicKey.isECDSA || leaf.publicKey.isRSA) = true := by
  obtain ⟨certs, chains, -, -, -, ⟨-, -, rfl⟩ | ⟨leaf, rest, rfl, hk, rfl, rfl⟩⟩ := h
  · intro _ _ h
    simp [hpeer] at h
  · intro _ _ h
    obtain ⟨rfl, rfl⟩ := List.cons.inj h
    exact ⟨rfl, hk⟩

/-- Peer certificates are stored exactly when the client sent a non-empty chain. -/
theorem CertsAccepted.peer_ne_nil (h : CertsAccepted env w certificates pub w')
    (hpeer : w.c.peerCertificates = []) : w'.c.peerCertificates ≠ [] ↔ certificates ≠ [] := by
  obtain ⟨certs, chains, hp, -, -, ⟨rfl, -, rfl⟩ | ⟨leaf, rest, rfl, -, -, rfl⟩⟩ := h <;>
    simp [hpeer, ← mapM_parseCertificate_raw hp]

end

/-! ## The client's Certificate -/

/-- The client's Certificate, when the policy asks for one: received, checked
against the policy's demand, and accepted (lines 600–626). -/
def ClientCertRead (env : Env) (w : World) (clientCerts : Option (List Bytes)) (pub : Option PublicKey)
    (w' : World) : Prop :=
  (w.c.config.clientAuth.toNat < ClientAuthType.requestClientCert.toNat ∧ clientCerts = none ∧ pub = none ∧
      w' = w) ∨
    (ClientAuthType.requestClientCert.toNat ≤ w.c.config.clientAuth.toNat ∧ ∃ certificates w₁,
      clientCerts = some certificates ∧ Received w (.certificate certificates) w₁ ∧
      ¬(certificates = [] ∧ (w.c.config.clientAuth = .requireAnyClientCert ∨
        w.c.config.clientAuth = .requireAndVerifyClientCert)) ∧
      CertsAccepted env (w₁.hashWrite (.certificate certificates)) certificates pub w')

section

variable {env : Env} {w w' : World} {clientCerts : Option (List Bytes)} {pub : Option PublicKey}

theorem readClientCertificate_flight (hA : AlertsFail env) :
    wp (readClientCertificate env)
      (fun r w' => ∃ clientCerts wₐ, ClientCertRead env w clientCerts r.2 wₐ ∧ Received wₐ r.1 w')
      (fun _ _ => True) w := by
  refine wp_mono readClientCertificate_spec ?_ fun _ _ _ => trivial
  rintro r w' (⟨hlt, hpub, hr⟩ | ⟨hge, certificates, w₁, w₂, hr₁, hnot, hp, hr₂⟩)
  · exact ⟨none, w, .inl ⟨hlt, rfl, hpub, rfl⟩, hr⟩
  · exact ⟨some certificates, w₂, .inr ⟨hge, certificates, w₁, rfl, hr₁, hnot, hp.accepted hA⟩, hr₂⟩

theorem ClientCertRead.frame (h : ClientCertRead env w clientCerts pub w') :
    w'.kept = w.kept ∧ w'.hs.hello = w.hs.hello ∧ w'.hs.masterSecret = w.hs.masterSecret ∧
      w'.wire = w.wire ++ clientCerts.toList.map (fun l => .recv (.handshake (.certificate l))) ∧
      w'.hashCalls = w.hashCalls ∧ w'.c.didResume = w.c.didResume ∧
      w'.hs.finishedHash = (clientCerts.toList.map .certificate).foldl FinishedHash.write w.hs.finishedHash := by
  rcases h with ⟨-, rfl, -, rfl⟩ | ⟨-, certificates, w₁, rfl, ⟨-, rfl⟩, -, hp⟩
  · exact ⟨rfl, rfl, rfl, by simp, rfl, rfl, rfl⟩
  · obtain ⟨hk, hh, hm, hf, hw, -, hc, hd, -⟩ := hp.frame
    exact ⟨hk, hh, hm, by simp [hw, World.hashWrite], hc, hd, hf⟩

/-- The policy asks for the client's Certificate exactly when it is read. -/
theorem ClientCertRead.isSome (h : ClientCertRead env w clientCerts pub w') :
    clientCerts.isSome = decide (ClientAuthType.requestClientCert.toNat ≤ w.c.config.clientAuth.toNat) := by
  rcases h with ⟨hlt, rfl, -⟩ | ⟨hge, certificates, w₁, rfl, -⟩
  · simpa using hlt
  · simpa using hge

theorem ClientCertRead.checked (h : ClientCertRead env w clientCerts pub w') (hpeer : w.c.peerCertificates = [])
    (hder : w.hs.certsFromClient = []) : ClientAuthChecked env w' := by
  rcases h with ⟨hlt, -, -, rfl⟩ | ⟨hge, certificates, w₁, -, ⟨-, rfl⟩, hnot, hp⟩
  · refine .of_none hpeer hder ?_
    rintro (h | h) <;> simp [h, ClientAuthType.toNat] at hlt
  · refine hp.checked hpeer (fun hreq hc => hnot ⟨hc, hreq⟩) fun hn => ?_
    have hn : w.c.config.clientAuth = .noClientCert := hn
    simp [hn, ClientAuthType.toNat] at hge

theorem ClientCertRead.pubKey (h : ClientCertRead env w clientCerts pub w') (hpeer : w.c.peerCertificates = []) :
    ∀ leaf rest, w'.c.peerCertificates = leaf :: rest →
      pub = some leaf.publicKey ∧ (leaf.publicKey.isECDSA || leaf.publicKey.isRSA) = true := by
  rcases h with ⟨-, -, -, rfl⟩ | ⟨-, certificates, w₁, -, ⟨-, rfl⟩, -, hp⟩
  · intro _ _ h
    simp [hpeer] at h
  · exact hp.pubKey hpeer

/-- Peer certificates are stored exactly when the client's Certificate was
read and non-empty. -/
theorem ClientCertRead.peer_ne_nil (h : ClientCertRead env w clientCerts pub w')
    (hpeer : w.c.peerCertificates = []) :
    w'.c.peerCertificates ≠ [] ↔ clientCerts.any (fun l => !l.isEmpty) = true := by
  rcases h with ⟨-, rfl, -, rfl⟩ | ⟨-, certificates, w₁, rfl, ⟨-, rfl⟩, -, hp⟩
  · simp [hpeer]
  · rw [hp.peer_ne_nil hpeer]
    simp [List.isEmpty_iff]

/-- Peer certificates are stored only when the policy asks for the client's
Certificate. -/
theorem ClientCertRead.clientAuth_ne (h : ClientCertRead env w clientCerts pub w')
    (hpeer : w.c.peerCertificates = []) (hne : w'.c.peerCertificates ≠ []) :
    w.c.config.clientAuth ≠ .noClientCert := by
  rcases h with ⟨-, -, -, rfl⟩ | ⟨hge, -⟩
  · exact absurd hpeer hne
  · intro hn
    simp [hn, ClientAuthType.toNat] at hge

end

/-! ## Resumption -/

section

variable {env : Env} {w : World}

/-- **A resumption leaves the client-certificate checks**: the ticket's
certificates pass `clientCertsAllowResumption` and then `processCertsFromClient`,
which accepts them when alerts fail; the only record sent is the ServerHello. -/
theorem doResumeHandshake_flight (hA : AlertsFail env) {s : CipherSuite} {ch : ClientHelloMsg}
    {hello : ServerHelloMsg} {st : SessionState} (hs : w.hs.suite = some s)
    (hch : w.hs.clientHello = some ch) (hh : w.hs.hello = some hello) (hst : w.hs.sessionState = some st)
    (hallow : clientCertsAllowResumption w.c.config.clientAuth st.certificates = true)
    (hpeer : w.c.peerCertificates = []) (hder : w.hs.certsFromClient = []) :
    wp (doResumeHandshake env)
      (fun _ w' => ClientAuthChecked env w' ∧ ∃ hello', w'.hs.hello = some hello' ∧
        w'.wire = w.wire ++ [.send (.handshake (.serverHello hello'))])
      (fun _ _ => True) w := by
  refine wp_mono (doResumeHandshake_spec hs hch hh hst) ?_ fun _ _ _ => trivial
  rintro _ _ ⟨hello', w₁, pub, w₂, -, rfl, ⟨hc, rfl⟩ | ⟨hc, hp⟩, rfl⟩
  · exact ⟨.of_none hpeer hder (by simpa [clientCertsAllowResumption, hc] using hallow), hello', rfl, rfl⟩
  · have hacc := hp.accepted hA
    obtain ⟨-, hhello, -, -, hwire, -⟩ := hacc.frame
    refine ⟨(hacc.checked hpeer (fun _ => hc) fun hn => absurd hn ?_).congr rfl rfl, hello', hhello, hwire⟩
    simpa [clientCertsAllowResumption, hc] using hallow

end

end Gnetcli.Tls
