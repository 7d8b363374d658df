import Gnetcli.Tls.HandshakeSpec

/-!
# The invariant of the handshake after `readClientHello`

From the ServerHello on, every block of the full and of the abbreviated
handshake keeps an invariant, `RunInv`:

- `Keeps`: the configuration, version, ClientHello, suite, certificate, session
  state and capability flags are those `readClientHello` left;
- the ServerHello and `didResume` are fixed;
- `Synced`: the transcript hash holds exactly the handshake messages on the wire;
- the transcript hash is `newFinishedHash`'s for the negotiated version and
  suite, its buffer possibly discarded (`FinishedHash.Of`);
- `CallsConsistentSince`: every transcript-hash call logged since the start is
  consistent (`HashCall.Consistent`).

Each way a block can change the world (`World.hashSend`, a received message
then hashed, an alert, `CertsProcessed`, the field updates of the blocks) gets
one closure lemma; `wp_bind_run` chains a block inside a run whose stops are
`StopsConsistent`.

**`doFullHandshake_inv`** is the full handshake under this invariant, for every
run: a normal return keeps `RunInv`, and a stop logs only consistent calls and
panics only when there is no certificate.
-/

namespace Gnetcli.Tls

/-! ## What the handshake keeps -/

/-- The part of the state the handshake after `readClientHello` never changes. -/
structure Kept where
  config : Config
  vers : Nat
  clientHello : Option ClientHelloMsg
  suite : Option CipherSuite
  cert : Option Certificate
  sessionState : Option SessionState
  caps : Bool × Bool × Bool × Bool

def World.kept (w : World) : Kept :=
  ⟨w.c.config, w.c.vers, w.hs.clientHello, w.hs.suite, w.hs.cert, w.hs.sessionState,
    (w.hs.ellipticOk, w.hs.ecdsaOk, w.hs.rsaDecryptOk, w.hs.rsaSignOk)⟩

/-- `w'` agrees with `w` on the kept part of the state. -/
def Keeps (w w' : World) : Prop := w'.kept = w.kept

namespace Keeps

variable {w w' : World}

theorem config (h : Keeps w w') : w'.c.config = w.c.config := congrArg Kept.config h

theorem vers (h : Keeps w w') : w'.c.vers = w.c.vers := congrArg Kept.vers h

theorem clientHello (h : Keeps w w') : w'.hs.clientHello = w.hs.clientHello :=
  congrArg Kept.clientHello h

theorem suite (h : Keeps w w') : w'.hs.suite = w.hs.suite := congrArg Kept.suite h

theorem cert (h : Keeps w w') : w'.hs.cert = w.hs.cert := congrArg Kept.cert h

theorem sessionState (h : Keeps w w') : w'.hs.sessionState = w.hs.sessionState :=
  congrArg Kept.sessionState h

theorem caps (h : Keeps w w') :
    (w'.hs.ellipticOk, w'.hs.ecdsaOk, w'.hs.rsaDecryptOk, w'.hs.rsaSignOk) =
      (w.hs.ellipticOk, w.hs.ecdsaOk, w.hs.rsaDecryptOk, w.hs.rsaSignOk) :=
  congrArg Kept.caps h

end Keeps

/-! ## Consistent hash calls over a run -/

/-- Every hash call logged since `w` is consistent. -/
def CallsConsistentSince (w w' : World) : Prop :=
  ∃ extra, w'.hashCalls = w.hashCalls ++ extra ∧ ∀ c ∈ extra, c.Consistent

/-- A stopped run panicked only if `cause`, and every hash call it logged since
`w` is consistent. -/
def StopsConsistent (cause : Prop) (w : World) (e : Stop) (w' : World) : Prop :=
  CallsConsistentSince w w' ∧ ∀ p, e = .panic p → cause

namespace CallsConsistentSince

variable {w₀ w w' : World}

theorem of_eq (h : w'.hashCalls = w.hashCalls) : CallsConsistentSince w w' :=
  ⟨[], by simp [h], by simp⟩

theorem trans (h₁ : CallsConsistentSince w₀ w) (h₂ : CallsConsistentSince w w') :
    CallsConsistentSince w₀ w' := by
  obtain ⟨e₁, he₁, hc₁⟩ := h₁
  obtain ⟨e₂, he₂, hc₂⟩ := h₂
  exact ⟨e₁ ++ e₂, by simp [he₂, he₁], fun c hc => (List.mem_append.mp hc).elim (hc₁ c) (hc₂ c)⟩

end CallsConsistentSince

theorem LogsConsistently.since {w w' : World} (h : LogsConsistently w w') (hs : Synced w) :
    CallsConsistentSince w w' :=
  let ⟨extra, he, hc⟩ := h
  ⟨extra, he, hc hs⟩

/-! ## The run invariant -/

/-- The invariant of the handshake after the ServerHello went out. -/
structure RunInv (w₀ : World) (hello : ServerHelloMsg) (w : World) : Prop where
  keeps : Keeps w₀ w
  hello_eq : w.hs.hello = some hello
  didResume : w.c.didResume = w₀.c.didResume
  synced : Synced w
  calls : CallsConsistentSince w₀ w
  made : ∀ s, w₀.hs.suite = some s → w.hs.finishedHash.Of w₀.c.vers s.id w.hs.finishedHash.log

namespace RunInv

variable {w₀ w w₁ : World} {hello : ServerHelloMsg}

theorem hashSend (h : RunInv w₀ hello w) (m : HandshakeMsg) : RunInv w₀ hello (w.hashSend m) :=
  ⟨h.keeps, h.hello_eq, h.didResume, by simp [Synced, World.hashSend, FinishedHash.write, h.synced.symm,
    WireEvent.handshakeMsg?], h.calls, fun s hs => (h.made s hs).write m⟩

theorem alert (h : RunInv w₀ hello w) (a : Alert) :
    RunInv w₀ hello { w with wire := w.wire ++ [.alert a] } :=
  ⟨h.keeps, h.hello_eq, h.didResume, by simp [Synced, h.synced.symm, WireEvent.handshakeMsg?], h.calls,
    h.made⟩

/-- A message received and then hashed keeps the transcript in sync. -/
theorem received (h : RunInv w₀ hello w) {m : HandshakeMsg} (hr : Received w m w₁) :
    RunInv w₀ hello (w₁.hashWrite m) := by
  obtain ⟨-, rfl⟩ := hr
  exact ⟨h.keeps, h.hello_eq, h.didResume, by simp [Synced, World.hashWrite, FinishedHash.write, h.synced.symm,
    WireEvent.handshakeMsg?], h.calls, fun s hs => (h.made s hs).write m⟩

theorem receivedCCS (h : RunInv w₀ hello w) (hr : ReceivedCCS w w₁) : RunInv w₀ hello w₁ := by
  obtain ⟨-, rfl⟩ := hr
  exact ⟨h.keeps, h.hello_eq, h.didResume, by simp [Synced, h.synced.symm, WireEvent.handshakeMsg?], h.calls,
    h.made⟩

theorem certsProcessed {env : Env} {certificates : List Bytes} {pub : Option PublicKey}
    (h : RunInv w₀ hello w) (hp : CertsProcessed env w certificates pub w₁) : RunInv w₀ hello w₁ := by
  obtain ⟨certs, chains, -, -, ⟨-, -, -, rfl⟩ | ⟨-, ⟨-, -, rfl⟩ | ⟨leaf, rest, -, -, -, rfl⟩⟩⟩ := hp
  · exact ⟨h.keeps, h.hello_eq, h.didResume, by simp [Synced, h.synced.symm, WireEvent.handshakeMsg?], h.calls,
      h.made⟩
  · exact ⟨h.keeps, h.hello_eq, h.didResume, h.synced, h.calls, h.made⟩
  · exact ⟨h.keeps, h.hello_eq, h.didResume, h.synced, h.calls, h.made⟩

/-- A field update that leaves the kept part, the ServerHello, the transcript,
the wire and the hash calls alone keeps the invariant. -/
theorem frame (h : RunInv w₀ hello w) (hk : w₁.kept = w.kept) (hh : w₁.hs.hello = w.hs.hello)
    (hd : w₁.c.didResume = w.c.didResume) (hf : w₁.hs.finishedHash = w.hs.finishedHash)
    (hw : w₁.wire = w.wire) (hc : w₁.hashCalls = w.hashCalls) : RunInv w₀ hello w₁ :=
  ⟨hk.trans h.keeps, hh.trans h.hello_eq, hd.trans h.didResume, by rw [Synced, hf, hw]; exact h.synced,
    by rw [CallsConsistentSince, hc]; exact h.calls, hf ▸ h.made⟩

/-- `discardHandshakeBuffer` keeps the invariant. -/
theorem discard (h : RunInv w₀ hello w) :
    RunInv w₀ hello { w with hs := { w.hs with finishedHash := { w.hs.finishedHash with buffer := none } } } :=
  ⟨h.keeps, h.hello_eq, h.didResume, h.synced, h.calls, fun s hs => (h.made s hs).discard⟩

theorem masterSecret (h : RunInv w₀ hello w) (ms : Bytes) :
    RunInv w₀ hello { w with hs := { w.hs with masterSecret := ms } } :=
  h.frame rfl rfl rfl rfl rfl rfl

/-- Logging, at a state in sync, a call that is consistent there. -/
theorem logCall {call : HashCall} (h : RunInv w₀ hello w) (h₁ : RunInv w₀ hello w₁)
    (hc : LogsConsistently w { w₁ with hashCalls := w.hashCalls ++ [call] }) :
    RunInv w₀ hello { w₁ with hashCalls := w.hashCalls ++ [call] } :=
  ⟨h₁.keeps, h₁.hello_eq, h₁.didResume, h₁.synced, h.calls.trans (hc.since h.synced), h₁.made⟩

/-- A stop of a block run from a state of the invariant is a consistent stop of
the whole run. -/
theorem stops {cause cause' : Prop} {e : Stop} {w' : World} (h : RunInv w₀ hello w)
    (hs : StopsSynced cause w e w') (hc : cause → cause') : StopsConsistent cause' w₀ e w' :=
  ⟨h.calls.trans (hs.1.since h.synced), fun p hp => hc (hs.2 p hp)⟩

end RunInv

theorem StopsCalm.stopsConsistent {cause cause' : Prop} {w : World} {e : Stop} {w' : World}
    (h : StopsCalm cause w e w') (hc : cause → cause') : StopsConsistent cause' w e w' :=
  ⟨.of_eq h.1, fun p hp => hc (h.2 p hp)⟩

/-! ## The buffer for the client's certificate -/

/-- The handshake buffer is there, for the versions that need it, whenever the
policy may ask for a client certificate. -/
def BufferKept (w : World) : Prop :=
  w.c.config.clientAuth ≠ .noClientCert → ¬BufferGone w.hs.finishedHash

/-- From the ServerHello to the client's first message: the run invariant, the
buffer kept, and no peer certificate yet. -/
structure FlightInv (w₀ : World) (hello : ServerHelloMsg) (w : World) : Prop where
  run : RunInv w₀ hello w
  buffer : BufferKept w
  peer : w.c.peerCertificates = []

/-- Once the client's Certificate was processed: a peer certificate was asked
for, and its key is one `checkClientSignature` can use. -/
structure CertRead (w₀ : World) (hello : ServerHelloMsg) (pub : Option PublicKey) (w : World) :
    Prop where
  run : RunInv w₀ hello w
  buffer : BufferKept w
  peer : w.c.peerCertificates ≠ [] →
    ClientAuthType.requestClientCert.toNat ≤ w.c.config.clientAuth.toNat ∧
      ∃ key, pub = some key ∧ (key.isECDSA || key.isRSA) = true

section

variable {env : Env} {w₀ w w₁ w' : World} {hello : ServerHelloMsg} {certificates : List Bytes}
  {pub : Option PublicKey}

theorem BufferKept.write (h : BufferKept w) (m : HandshakeMsg) :
    BufferKept { w with hs := { w.hs with finishedHash := w.hs.finishedHash.write m } } :=
  fun hc hb => h hc ⟨hb.1, by simpa [FinishedHash.write] using hb.2⟩

theorem FlightInv.hashSend (h : FlightInv w₀ hello w) (m : HandshakeMsg) :
    FlightInv w₀ hello (w.hashSend m) :=
  ⟨h.run.hashSend m, h.buffer.write m, h.peer⟩

theorem CertsProcessed.frame (h : CertsProcessed env w certificates pub w') :
    w'.c.config = w.c.config ∧ w'.hs.finishedHash = w.hs.finishedHash := by
  obtain ⟨certs, chains, -, -, ⟨-, -, -, rfl⟩ | ⟨-, ⟨-, -, rfl⟩ | ⟨leaf, rest, -, -, -, rfl⟩⟩⟩ := h <;>
    exact ⟨rfl, rfl⟩

/-- A peer certificate stored by `processCertsFromClient` comes with a key
`checkClientSignature` can use. -/
theorem CertsProcessed.peer (h : CertsProcessed env w certificates pub w')
    (hp : w.c.peerCertificates = []) (hne : w'.c.peerCertificates ≠ []) :
    ∃ key, pub = some key ∧ (key.isECDSA || key.isRSA) = true := by
  obtain ⟨certs, chains, -, -, ⟨-, -, -, rfl⟩ | ⟨-, ⟨-, -, rfl⟩ | ⟨leaf, rest, -, hk, rfl, rfl⟩⟩⟩ := h
  · exact absurd hp hne
  · exact absurd hp hne
  · exact ⟨_, rfl, hk⟩

/-- What `readClientCertificate` leaves, from a flight state: the certificate
state, then the next message received. -/
theorem FlightInv.readClientCertificate {r : HandshakeMsg × Option PublicKey}
    (h : FlightInv w₀ hello w)
    (hr : (w.c.config.clientAuth.toNat < ClientAuthType.requestClientCert.toNat ∧ r.2 = none ∧
          Received w r.1 w') ∨
        (ClientAuthType.requestClientCert.toNat ≤ w.c.config.clientAuth.toNat ∧
          ∃ certificates w₁ w₂, Received w (.certificate certificates) w₁ ∧
            ¬(certificates = [] ∧ (w.c.config.clientAuth = .requireAnyClientCert ∨
              w.c.config.clientAuth = .requireAndVerifyClientCert)) ∧
            CertsProcessed env (w₁.hashWrite (.certificate certificates)) certificates r.2 w₂ ∧
            Received w₂ r.1 w')) :
    ∃ wₐ, CertRead w₀ hello r.2 wₐ ∧ Received wₐ r.1 w' := by
  rcases hr with ⟨-, -, hr⟩ | ⟨hreq, certificates, w₁, w₂, hr₁, -, hp, hr₂⟩
  · exact ⟨w, ⟨h.run, h.buffer, fun hne => absurd h.peer hne⟩, hr⟩
  · obtain ⟨hcfg, hfh⟩ := hp.frame
    have hw₁ := hr₁.2
    subst hw₁
    refine ⟨w₂, ⟨(h.run.received hr₁).certsProcessed hp, ?_, fun hne => ?_⟩, hr₂⟩
    · intro hc
      rw [hfh]
      exact (h.buffer.write _) (hcfg ▸ hc)
    · exact ⟨hcfg ▸ hreq, hp.peer h.peer hne⟩

theorem CertRead.not_bufferGone (h : CertRead w₀ hello pub w) (hne : w.c.peerCertificates ≠ []) :
    ¬BufferGone w.hs.finishedHash :=
  have hreq := (h.peer hne).1
  h.buffer fun hc => by simp [hc, ClientAuthType.toNat] at hreq

/-- The ClientKeyExchange received, hashed, and the master secret set. -/
theorem CertRead.keyExchange {m : HandshakeMsg} (h : CertRead w₀ hello pub w) (hr : Received w m w₁)
    (ms : Bytes) :
    CertRead w₀ hello pub { w₁.hashWrite m with hs := { (w₁.hashWrite m).hs with masterSecret := ms } } := by
  have hrun := (h.run.received hr).masterSecret ms
  obtain ⟨-, rfl⟩ := hr
  exact ⟨hrun, h.buffer.write m, h.peer⟩

/-- From the certificate state, `readCertificateVerify` keeps the invariant and
never panics: a peer certificate was asked for, so the buffer is there. -/
theorem CertRead.readCertificateVerify {cause : Prop} (h : CertRead w₀ hello pub w) :
    wp (readCertificateVerify env pub) (fun _ => RunInv w₀ hello) (StopsConsistent cause w₀) w := by
  refine wp_mono (readCertificateVerify_spec pub fun hne => (h.peer hne).2) ?_
    fun _ _ hs => h.run.stops hs fun hb => absurd hb.2 (h.not_bufferGone hb.1)
  rintro _ _ (⟨-, rfl⟩ | ⟨key, cv, sah, w₁, -, -, hr, -, -, rfl⟩)
  · exact h.run
  · have h₁ := h.run.received hr
    obtain ⟨-, rfl⟩ := hr
    exact h.run.logCall h₁ (consistent_clientCertificate rfl)

end

section

variable {env : Env} {α β : Type} {Q : β → World → Prop}

/-- Run a block from a state of the invariant, inside a run from `w₀`. -/
theorem wp_bind_run {m : HsM α} {f : α → HsM β} {P : α → World → Prop} {cause cause' : Prop}
    {w₀ w : World} {hello : ServerHelloMsg} (h : wp m P (StopsSynced cause w) w)
    (hinv : RunInv w₀ hello w) (hc : cause → cause')
    (hf : ∀ a w', P a w' → wp (f a) Q (StopsConsistent cause' w₀) w') :
    wp (m >>= f) Q (StopsConsistent cause' w₀) w :=
  wp_bind_of (wp_mono h (fun _ _ => id) fun _ _ hs => hinv.stops hs hc) hf

/-- The same for a block that stops calmly: it needs only the calls so far to
be consistent, not the transcript to be in sync. -/
theorem wp_bind_run_calm {m : HsM α} {f : α → HsM β} {P : α → World → Prop} {cause cause' : Prop}
    {w₀ w : World} (h : wp m P (StopsCalm cause w) w) (hw : CallsConsistentSince w₀ w)
    (hc : cause → cause') (hf : ∀ a w', P a w' → wp (f a) Q (StopsConsistent cause' w₀) w') :
    wp (m >>= f) Q (StopsConsistent cause' w₀) w :=
  wp_bind_of (wp_mono h (fun _ _ => id) fun _ _ hs => ⟨hw.trans (.of_eq hs.1), fun p hp => hc (hs.2 p hp)⟩) hf

end

/-! ## The full handshake -/

section

variable {env : Env} {w : World}

/-- **The full handshake keeps the invariant** (lines 407–687), in every run
from the state `readClientHello` leaves: a normal return, early or not, keeps
`RunInv` for the ServerHello it sent; a stop has logged only consistent calls
and panics only without a certificate. -/
theorem doFullHandshake_inv {ch : ClientHelloMsg} {hello : ServerHelloMsg} {s : CipherSuite}
    (hch : w.hs.clientHello = some ch) (hh : w.hs.hello = some hello) (hs : w.hs.suite = some s)
    (hwire : handshakeMsgs w.wire = [.clientHello ch]) (hpeer : w.c.peerCertificates = []) :
    wp (doFullHandshake env)
      (fun _ w' => ∃ hello', RunInv w hello' w' ∧ hello'.nextProtoNeg = hello.nextProtoNeg ∧
        hello'.ticketSupported = (ch.ticketSupported && !w.c.config.sessionTicketsDisabled))
      (StopsConsistent (w.hs.cert = none) w) w := by
  unfold doFullHandshake
  refine wp_bind_of (wp_mono (sendServerHello_spec hch hh hs) (fun _ _ => id)
    fun _ _ h => h.stopsConsistent False.elim) ?_
  rintro _ w₁ ⟨hello₁, hw₁, -, hticket, hnpn, -⟩
  have h₁ : FlightInv w hello₁ w₁ := by
    subst hw₁
    have hf := w.helloSent_finishedHash s ch hello₁
    refine ⟨⟨rfl, rfl, rfl, ?_, .of_eq rfl, fun s' hs' => ?_⟩, fun hc => ?_, hpeer⟩
    · rw [Synced, hf.log]
      simp [hwire, World.helloSent, WireEvent.handshakeMsg?]
    · cases hs.symm.trans hs'
      exact hf.log ▸ hf
    · have hc : w.c.config.clientAuth ≠ .noClientCert := hc
      simpa [World.helloSent, hc] using transcriptHash_not_bufferGone
  clear hw₁
  refine wp_bind_run_calm (sendCertificate_spec (h₁.run.keeps.suite.trans hs)) h₁.run.calls
    (fun hc => h₁.run.keeps.cert ▸ hc) ?_
  rintro _ w₂ h₂
  replace h₂ : FlightInv w hello₁ w₂ := by
    rcases h₂ with ⟨-, rfl⟩ | ⟨-, -, -, rfl⟩
    · exact h₁
    · exact h₁.hashSend _
  refine wp_bind_run_calm (sendCertificateStatus_spec h₂.run.hello_eq) h₂.run.calls
    (fun hc => h₂.run.keeps.cert ▸ hc) ?_
  rintro _ w₃ h₃
  replace h₃ : FlightInv w hello₁ w₃ := by
    rcases h₃ with ⟨-, rfl⟩ | ⟨-, -, -, rfl⟩
    · exact h₂
    · exact h₂.hashSend _
  rw [wp_bind, wp_get, wp_bind, wp_getSuite, h₃.run.keeps.suite.trans hs]
  refine wp_bind_run_calm (sendServerKeyExchange_spec _ (h₃.run.keeps.clientHello.trans hch) h₃.run.hello_eq) h₃.run.calls
    False.elim ?_
  rintro ok w₄ h₄
  cases ok
  · obtain ⟨-, -, -, rfl⟩ := h₄.resolve_right (by rintro (⟨h, -⟩ | ⟨h, -⟩) <;> cases h)
    exact ⟨hello₁, h₃.run.alert _, hnpn, hticket⟩
  replace h₄ : FlightInv w hello₁ w₄ := by
    rcases h₄ with ⟨h, -⟩ | ⟨-, -, rfl⟩ | ⟨-, -, -, rfl⟩
    · cases h
    · exact h₃
    · exact h₃.hashSend _
  simp only [Bool.not_true, Bool.false_eq_true, if_false, pure_bind]
  refine wp_bind_run_calm sendCertificateRequest_spec h₄.run.calls False.elim ?_
  rintro _ w₅ h₅
  replace h₅ : FlightInv w hello₁ w₅ := by
    rcases h₅ with ⟨-, rfl⟩ | ⟨-, -, rfl⟩
    · exact h₄
    · exact h₄.hashSend _
  refine wp_bind_run_calm sendServerHelloDone_spec h₅.run.calls False.elim ?_
  rintro _ _ rfl
  have h₆ := h₅.hashSend .serverHelloDone
  refine wp_bind_run_calm readClientCertificate_spec h₆.run.calls False.elim ?_
  rintro ⟨msg, pub⟩ w₇ h₇
  obtain ⟨w₆', h₆', hr⟩ := h₆.readClientCertificate h₇
  clear h₇
  have hr₇ := h₆'.run.received hr
  obtain ⟨hin, rfl⟩ := hr
  refine wp_bind_run_calm (readClientKeyExchange_spec _ msg (h₆'.run.keeps.suite.trans hs)
    (h₆'.run.keeps.clientHello.trans hch) h₆'.run.hello_eq) h₆'.run.calls False.elim ?_
  rintro ok w₈ ⟨ciphertext, -, h₈⟩
  cases ok
  · rcases h₈ with ⟨-, -, -, rfl⟩ | ⟨pms, -, ⟨-, -, -, rfl⟩ | ⟨h, -⟩⟩
    · exact ⟨hello₁, hr₇.alert _, hnpn, hticket⟩
    · exact ⟨hello₁, (hr₇.masterSecret
        (env.masterFromPreMasterSecret w₆'.c.vers s.id pms ch.random hello₁.random)).alert _, hnpn, hticket⟩
    · cases h
  obtain ⟨pms, -, ⟨h, -⟩ | ⟨-, -, rfl⟩⟩ := h₈.resolve_left fun h => by cases h.1
  · cases h
  simp only [Bool.not_true, Bool.false_eq_true, if_false]
  refine wp_bind_of ((h₆'.keyExchange ⟨hin, rfl⟩ _).readCertificateVerify) fun _ w₉ h₉ => ?_
  rw [wp_discardHandshakeBuffer]
  exact ⟨hello₁, h₉.discard, hnpn, hticket⟩

end

end Gnetcli.Tls
