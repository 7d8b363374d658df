import Gnetcli.Tls.ClientAuth

/-!
# The records of a handshake, and the full handshake's flights

RFC 5246 §7.3 fixes which handshake messages a handshake exchanges and in what
order; this server's configuration decides which optional ones occur. This file
states that grammar over wire traces and follows `doFullHandshake` when alerts
fail (`AlertsFail`):

- `sends`, `recvs`, `OptionalMsg`: words of records, and a message present
  exactly when a flag says so;
- `ServerFlight`, `ClientFlight`, `ClientFinish`, `ServerFinish`: the four
  flights, and `FullHandshakeWord`, `ResumeHandshakeWord`: the two handshakes;
- `issuedTickets`: the tickets a trace sent;
- `CertificateVerified`: the client's CertificateVerify was checked against the
  leaf's key over the transcript before it;
- **`doFullHandshake_flight`**: the full handshake sends the server's flight and
  reads the client's, leaves `ClientAuthChecked`, and ends with a checked
  CertificateVerify whenever a peer certificate was stored (`FullFlight`).

Each block of the server's flight gets a lemma saying which messages it sends,
derived from its spec lemma in `HandshakeSpec` with the alert branches removed.
-/

namespace Gnetcli.Tls

/-! ## Words of records -/

/-- Handshake messages the server sends, as wire events. -/
def sends (msgs : List HandshakeMsg) : List WireEvent := msgs.map fun m => .send (.handshake m)

/-- Handshake messages the server receives, as wire events. -/
def recvs (msgs : List HandshakeMsg) : List WireEvent := msgs.map fun m => .recv (.handshake m)

@[simp] theorem sends_append (a b : List HandshakeMsg) : sends (a ++ b) = sends a ++ sends b :=
  List.map_append _ _ _

@[simp] theorem recvs_append (a b : List HandshakeMsg) : recvs (a ++ b) = recvs a ++ recvs b :=
  List.map_append _ _ _

@[simp] theorem sends_cons (m : HandshakeMsg) (msgs : List HandshakeMsg) :
    sends (m :: msgs) = .send (.handshake m) :: sends msgs := rfl

@[simp] theorem recvs_cons (m : HandshakeMsg) (msgs : List HandshakeMsg) :
    recvs (m :: msgs) = .recv (.handshake m) :: recvs msgs := rfl

@[simp] theorem sends_nil : sends [] = [] := rfl

@[simp] theorem recvs_nil : recvs [] = [] := rfl

/-- `msgs` is one message of kind `k` when `present`, and none otherwise. -/
def OptionalMsg (present : Bool) (k : MsgKind) (msgs : List HandshakeMsg) : Prop :=
  msgs.map HandshakeMsg.kind = if present then [k] else []

theorem OptionalMsg.none (k : MsgKind) : OptionalMsg false k [] := rfl

theorem OptionalMsg.one {m : HandshakeMsg} {k : MsgKind} (h : m.kind = k) : OptionalMsg true k [m] := by
  simp [OptionalMsg, h]

/-- The server hashes and sends `msgs`, in order. -/
def World.hashSendAll (w : World) (msgs : List HandshakeMsg) : World :=
  { w with hs := { w.hs with finishedHash := msgs.foldl FinishedHash.write w.hs.finishedHash },
           wire := w.wire ++ sends msgs }

@[simp] theorem hashSendAll_nil (w : World) : w.hashSendAll [] = w := by
  simp [World.hashSendAll]

/-! ## The handshake grammar -/

/-- The server's flight of a full handshake (lines 479–596): ServerHello, then
Certificate unless the suite has none, CertificateStatus when OCSP stapling was
agreed, ServerKeyExchange when the key agreement produced `ke`,
CertificateRequest when the policy asks for a certificate, and ServerHelloDone. -/
def ServerFlight (clientAuth : ClientAuthType) (noCerts : Bool) (hello : ServerHelloMsg)
    (ke : Option Bytes) (msgs : List HandshakeMsg) : Prop :=
  ∃ cert status req, OptionalMsg (!noCerts) .certificate cert ∧
    OptionalMsg hello.ocspStapling .certificateStatus status ∧
    OptionalMsg (decide (ClientAuthType.requestClientCert.toNat ≤ clientAuth.toNat)) .certificateRequest req ∧
    msgs = .serverHello hello :: cert ++ status ++ ke.toList.map .serverKeyExchange ++ req ++ [.serverHelloDone]

/-- The client's answer (lines 598–682): Certificate when the policy asks for
one, ClientKeyExchange, and CertificateVerify when the Certificate was not empty. -/
def ClientFlight (clientAuth : ClientAuthType) (msgs : List HandshakeMsg) : Prop :=
  ∃ certs : Option (List Bytes), ∃ ckx cv,
    certs.isSome = decide (ClientAuthType.requestClientCert.toNat ≤ clientAuth.toNat) ∧
    OptionalMsg (certs.any fun l => !l.isEmpty) .certificateVerify cv ∧
    msgs = certs.toList.map .certificate ++ .clientKeyExchange ckx :: cv

/-- The client's ChangeCipherSpec, NextProtocol when NPN was advertised, and
Finished (lines 714–774). -/
def ClientFinish (hello : ServerHelloMsg) (events : List WireEvent) : Prop :=
  ∃ npn verifyData, OptionalMsg hello.nextProtoNeg .nextProtocol npn ∧
    events = .recv .changeCipherSpec :: recvs (npn ++ [.finished verifyData])

/-- The server's NewSessionTicket when tickets were agreed, ChangeCipherSpec and
Finished (lines 776–829). -/
def ServerFinish (hello : ServerHelloMsg) (events : List WireEvent) : Prop :=
  ∃ ticket verifyData, OptionalMsg hello.ticketSupported .newSessionTicket ticket ∧
    events = sends ticket ++ [.send .changeCipherSpec, .send (.handshake (.finished verifyData))]

/-- A full handshake: ClientHello, the server's flight, the client's, the
client's Finished, and the server's. -/
def FullHandshakeWord (ch : ClientHelloMsg) (clientAuth : ClientAuthType) (noCerts : Bool)
    (hello : ServerHelloMsg) (ke : Option Bytes) (wire : List WireEvent) : Prop :=
  ∃ server client cfin sfin, ServerFlight clientAuth noCerts hello ke server ∧
    ClientFlight clientAuth client ∧ ClientFinish hello cfin ∧ ServerFinish hello sfin ∧
    wire = .recv (.handshake (.clientHello ch)) :: sends server ++ recvs client ++ cfin ++ sfin

/-- An abbreviated handshake: ClientHello, ServerHello, the server's Finished,
then the client's. -/
def ResumeHandshakeWord (ch : ClientHelloMsg) (hello : ServerHelloMsg) (wire : List WireEvent) : Prop :=
  ∃ sfin cfin, ServerFinish hello sfin ∧ ClientFinish hello cfin ∧
    wire = [.recv (.handshake (.clientHello ch)), .send (.handshake (.serverHello hello))] ++ sfin ++ cfin

/-! ## Tickets on the wire -/

/-- The ticket a message carries, if it is a NewSessionTicket. -/
def HandshakeMsg.ticket? : HandshakeMsg → Option Bytes
  | .newSessionTicket t => some t
  | _ => none

/-- The ticket a wire event sent, if any. -/
def WireEvent.ticket? : WireEvent → Option Bytes
  | .send (.handshake m) => m.ticket?
  | _ => none

/-- The tickets a trace sent, in order. -/
def issuedTickets (wire : List WireEvent) : List Bytes := wire.filterMap WireEvent.ticket?

@[simp] theorem issuedTickets_append (a b : List WireEvent) :
    issuedTickets (a ++ b) = issuedTickets a ++ issuedTickets b :=
  List.filterMap_append _ _ _

@[simp] theorem issuedTickets_cons (e : WireEvent) (rest : List WireEvent) :
    issuedTickets (e :: rest) = e.ticket?.toList ++ issuedTickets rest := by
  cases h : e.ticket? <;> simp [issuedTickets, List.filterMap_cons, h]

@[simp] theorem issuedTickets_nil : issuedTickets [] = [] := rfl

@[simp] theorem issuedTickets_recvs (msgs : List HandshakeMsg) : issuedTickets (recvs msgs) = [] := by
  induction msgs <;> simp_all [WireEvent.ticket?]

theorem issuedTickets_sends (msgs : List HandshakeMsg) :
    issuedTickets (sends msgs) = msgs.filterMap HandshakeMsg.ticket? := by
  induction msgs with
  | nil => rfl
  | cons m msgs ih => cases h : m.ticket? <;> simp [WireEvent.ticket?, ih, h, List.filterMap_cons]

theorem ticket?_eq_none {m : HandshakeMsg} (h : m.kind ≠ .newSessionTicket) : m.ticket? = none := by
  cases m <;> simp_all [HandshakeMsg.ticket?, HandshakeMsg.kind]

/-- An optional message of another kind carries no ticket. -/
theorem OptionalMsg.issuedTickets {present : Bool} {k : MsgKind} {msgs : List HandshakeMsg}
    (h : OptionalMsg present k msgs) (hk : k ≠ .newSessionTicket) : issuedTickets (sends msgs) = [] := by
  rw [issuedTickets_sends, List.filterMap_eq_nil_iff]
  intro m hm
  have : m.kind ∈ msgs.map HandshakeMsg.kind := List.mem_map_of_mem _ hm
  rw [h] at this
  exact ticket?_eq_none fun he => hk (by split at this <;> simp_all)

/-- The server's flight sends no ticket. -/
theorem ServerFlight.issuedTickets {clientAuth : ClientAuthType} {noCerts : Bool} {hello : ServerHelloMsg}
    {ke : Option Bytes} {msgs : List HandshakeMsg} (h : ServerFlight clientAuth noCerts hello ke msgs) :
    Gnetcli.Tls.issuedTickets (sends msgs) = [] := by
  obtain ⟨cert, status, req, hc, hs, hr, rfl⟩ := h
  have hke : Gnetcli.Tls.issuedTickets (sends (ke.toList.map .serverKeyExchange)) = [] := by
    cases ke <;> rfl
  simp [hc.issuedTickets (by decide), hs.issuedTickets (by decide), hr.issuedTickets (by decide), hke,
    WireEvent.ticket?, HandshakeMsg.ticket?]

/-- The client's Finished flight sends nothing. -/
theorem ClientFinish.issuedTickets {hello : ServerHelloMsg} {events : List WireEvent}
    (h : ClientFinish hello events) : Gnetcli.Tls.issuedTickets events = [] := by
  obtain ⟨npn, verifyData, -, rfl⟩ := h
  simp [WireEvent.ticket?]

/-! ## The server's flight -/

section

variable {env : Env} {w : World}

theorem wp_getSuite_eq {s : CipherSuite} {R : Stop → World → Prop} (h : w.hs.suite = some s) :
    wp getSuite (fun a w' => s = a ∧ w' = w) R w := by
  simp [h]

theorem sendCertificate_flight {s : CipherSuite} (hs : w.hs.suite = some s) :
    wp (sendCertificate env)
      (fun _ w' => ∃ msgs, OptionalMsg (!s.flags.noCerts) .certificate msgs ∧ w' = w.hashSendAll msgs)
      (fun _ _ => True) w := by
  refine wp_mono (sendCertificate_spec hs) ?_ fun _ _ _ => trivial
  rintro _ _ (⟨h, rfl⟩ | ⟨h, cert, -, rfl⟩)
  · exact ⟨[], by simp [OptionalMsg, h], (hashSendAll_nil _).symm⟩
  · exact ⟨[.certificate cert.certificate], by simp [OptionalMsg, h, HandshakeMsg.kind], rfl⟩

theorem sendCertificateStatus_flight {hello : ServerHelloMsg} (hh : w.hs.hello = some hello) :
    wp (sendCertificateStatus env)
      (fun _ w' => ∃ msgs, OptionalMsg hello.ocspStapling .certificateStatus msgs ∧ w' = w.hashSendAll msgs)
      (fun _ _ => True) w := by
  refine wp_mono (sendCertificateStatus_spec hh) ?_ fun _ _ _ => trivial
  rintro _ _ (⟨h, rfl⟩ | ⟨h, cert, -, rfl⟩)
  · exact ⟨[], by simp [OptionalMsg, h], (hashSendAll_nil _).symm⟩
  · exact ⟨[.certificateStatus statusTypeOCSP cert.ocspStaple], by simp [OptionalMsg, h, HandshakeMsg.kind], rfl⟩

/-- When alerts fail, the key exchange goes on only after sending what the key
agreement produced. -/
theorem sendServerKeyExchange_flight (hA : AlertsFail env) (ka : KeyAgreement) {ch : ClientHelloMsg}
    {hello : ServerHelloMsg} (hch : w.hs.clientHello = some ch) (hh : w.hs.hello = some hello) :
    wp (sendServerKeyExchange env ka)
      (fun ok w' => ok = true ∧ ∃ ke, ka.generateServerKeyExchange w.c.config w.hs.cert ch hello = .ok ke ∧
        w' = w.hashSendAll (ke.toList.map .serverKeyExchange))
      (fun _ _ => True) w := by
  refine wp_mono (sendServerKeyExchange_spec ka hch hh) ?_ fun _ _ _ => trivial
  rintro _ _ (⟨-, -, hnil, -⟩ | ⟨rfl, hg, rfl⟩ | ⟨rfl, key, hg, rfl⟩)
  · exact absurd hnil (hA.ne_none _ _)
  · exact ⟨rfl, none, hg, (hashSendAll_nil _).symm⟩
  · exact ⟨rfl, some key, hg, rfl⟩

theorem sendCertificateRequest_flight :
    wp (sendCertificateRequest env)
      (fun _ w' => ∃ msgs, OptionalMsg (decide (ClientAuthType.requestClientCert.toNat ≤
          w.c.config.clientAuth.toNat)) .certificateRequest msgs ∧ w' = w.hashSendAll msgs)
      (fun _ _ => True) w := by
  refine wp_mono sendCertificateRequest_spec ?_ fun _ _ _ => trivial
  rintro _ _ (⟨h, rfl⟩ | ⟨h, req, rfl⟩)
  · exact ⟨[], by simp [OptionalMsg, Nat.not_le.mpr h], (hashSendAll_nil _).symm⟩
  · exact ⟨[.certificateRequest req], by simp [OptionalMsg, h, HandshakeMsg.kind], rfl⟩

/-! ## The client's flight -/

/-- When alerts fail, the client's key exchange goes on only with the master
secret of an accepted ClientKeyExchange. -/
theorem readClientKeyExchange_flight (hA : AlertsFail env) (ka : KeyAgreement) (msg : HandshakeMsg)
    {s : CipherSuite} {ch : ClientHelloMsg} {hello : ServerHelloMsg} (hs : w.hs.suite = some s)
    (hch : w.hs.clientHello = some ch) (hh : w.hs.hello = some hello) :
    wp (readClientKeyExchange env ka msg)
      (fun ok w' => ok = true ∧ ∃ ciphertext preMasterSecret, msg = .clientKeyExchange ciphertext ∧
        ka.processClientKeyExchange w.c.config w.hs.cert ciphertext w.c.vers = .ok preMasterSecret ∧
        w' = { w.hashWrite msg with
          hs := { (w.hashWrite msg).hs with
            masterSecret := env.masterFromPreMasterSecret w.c.vers s.id preMasterSecret ch.random
              hello.random } })
      (fun _ _ => True) w := by
  refine wp_mono (readClientKeyExchange_spec ka msg hs hch hh) ?_ fun _ _ _ => trivial
  rintro _ _ ⟨ciphertext, rfl, ⟨-, -, hnil, -⟩ | ⟨pms, hp, ⟨-, -, hnil, -⟩ | ⟨rfl, -, rfl⟩⟩⟩
  · exact absurd hnil (hA.ne_none _ _)
  · exact absurd hnil (hA.ne_none _ _)
  · exact ⟨rfl, ciphertext, pms, rfl, hp, rfl⟩

/-- The server received a CertificateVerify whose signature type fits `key` and
whose signature verifies under `key` over the transcript hash of the messages
before it: `newFinishedHash` for the negotiated version and suite, its buffer
kept (lines 628–680). -/
def CertificateVerified (env : Env) (key : PublicKey) (w : World) : Prop :=
  ∃ s pre cv sah, w.hs.suite = some s ∧ pre ++ [.recv (.handshake (.certificateVerify cv))] <+: w.wire ∧
    certificateVerifyAlgorithm env (some key) cv = .ok sah ∧
    SignatureAccepted env key sah cv.signature (transcriptHash w.c.vers s.id (handshakeMsgs pre))
      w.hs.masterSecret

theorem CertificateVerified.extend {key : PublicKey} {w' : World} (h : CertificateVerified env key w)
    (hw : w.wire <+: w'.wire) (hs : w'.settled = w.settled) : CertificateVerified env key w' := by
  obtain ⟨-, hv, hsuite, hm, -⟩ := Settled.mk.inj hs
  obtain ⟨s, pre, cv, sah, hs', hp, ha, hsig⟩ := h
  exact ⟨s, pre, cv, sah, hsuite ▸ hs', hp.trans hw, ha, hv ▸ hm ▸ hsig⟩

/-- What `doFullHandshake` exchanged from `w` to `w'` when alerts fail: the
server's flight and the client's, the client-certificate checks, and, when a
peer certificate was stored, a CertificateVerify as the last message, checked
over the transcript before it. -/
structure FullFlight (env : Env) (w : World) (hello : ServerHelloMsg) (w' : World) : Prop where
  hello_eq : w'.hs.hello = some hello
  flights : ∃ s ch ke, w.hs.suite = some s ∧ w.hs.clientHello = some ch ∧
    (s.ka w.c.vers).generateServerKeyExchange w.c.config w.hs.cert ch hello = .ok ke ∧
    ∃ server client, ServerFlight w.c.config.clientAuth s.flags.noCerts hello ke server ∧
      ClientFlight w.c.config.clientAuth client ∧ w'.wire = w.wire ++ sends server ++ recvs client
  checked : ClientAuthChecked env w'
  signed : ∀ leaf rest, w'.c.peerCertificates = leaf :: rest → ∃ s pre cv sah fh,
    w'.hs.suite = some s ∧ w'.wire = pre ++ [.recv (.handshake (.certificateVerify cv))] ∧
    w'.hs.finishedHash.log = fh.log ++ [.certificateVerify cv] ∧ (∃ msgs, fh = transcriptHash w'.c.vers s.id msgs) ∧
    certificateVerifyAlgorithm env (some leaf.publicKey) cv = .ok sah ∧
    SignatureAccepted env leaf.publicKey sah cv.signature fh w'.hs.masterSecret

/-- In a transcript in sync, the last CertificateVerify was checked over the
transcript hash of exactly the messages before it. -/
theorem FullFlight.certificateVerified {w' : World} {hello : ServerHelloMsg} (h : FullFlight env w hello w')
    (hs : Synced w') {leaf : X509Certificate} {rest : List X509Certificate}
    (hp : w'.c.peerCertificates = leaf :: rest) : CertificateVerified env leaf.publicKey w' := by
  obtain ⟨s, pre, cv, sah, _, hsuite, hw, hl, ⟨msgs, rfl⟩, ha, hsig⟩ := h.signed leaf rest hp
  have hlog : msgs = handshakeMsgs pre := by
    rw [Synced, hl, hw] at hs
    simpa [WireEvent.handshakeMsg?] using hs
  exact ⟨s, pre, cv, sah, hsuite, hw ▸ List.prefix_refl _, ha, hlog ▸ hsig⟩

/-- **The full handshake's flights** (lines 407–687), when alerts fail: from
the state `readClientHello` leaves, a normal return sent the server's flight,
read the client's, and left `FullFlight`. -/
theorem doFullHandshake_flight (hA : AlertsFail env) {ch : ClientHelloMsg} {hello : ServerHelloMsg}
    {s : CipherSuite} (hch : w.hs.clientHello = some ch) (hh : w.hs.hello = some hello)
    (hs : w.hs.suite = some s) (hpeer : w.c.peerCertificates = []) (hder : w.hs.certsFromClient = []) :
    wp (doFullHandshake env) (fun _ w' => ∃ hello', FullFlight env w hello' w') (fun _ _ => True) w := by
  unfold doFullHandshake
  -- the server's flight
  refine wp_bind_of (wp_mono (sendServerHello_spec hch hh hs) (fun _ _ => id) fun _ _ _ => trivial) ?_
  rintro _ _ ⟨hello', rfl, -⟩
  refine wp_bind_of (sendCertificate_flight hs) ?_
  rintro _ _ ⟨cert, hcert, rfl⟩
  refine wp_bind_of (sendCertificateStatus_flight rfl) ?_
  rintro _ _ ⟨status, hstatus, rfl⟩
  rw [wp_bind, wp_get]
  refine wp_bind_of (wp_getSuite_eq hs) ?_
  rintro _ _ ⟨rfl, rfl⟩
  refine wp_bind_of (sendServerKeyExchange_flight hA _ hch rfl) ?_
  rintro _ _ ⟨rfl, ke, hke, rfl⟩
  simp only [Bool.not_true, Bool.false_eq_true, if_false, pure_bind]
  refine wp_bind_of sendCertificateRequest_flight ?_
  rintro _ _ ⟨req, hreq, rfl⟩
  refine wp_bind_of (wp_mono sendServerHelloDone_spec (fun _ _ => id) fun _ _ _ => trivial) ?_
  rintro _ w₆ rfl
  -- the client's flight
  refine wp_bind_of (readClientCertificate_flight hA) ?_
  rintro ⟨msg, pub⟩ _ ⟨clientCerts, wₐ, hcr, hin, rfl⟩
  obtain ⟨hk, hhello, -, hwire, -, -, hfh⟩ := hcr.frame
  refine wp_bind_of (readClientKeyExchange_flight hA _ msg ((Keeps.suite hk).trans hs)
    ((Keeps.clientHello hk).trans hch) hhello) ?_
  rintro _ _ ⟨rfl, ckx, pms, rfl, -, rfl⟩
  simp only [Bool.not_true, Bool.false_eq_true, if_false]
  refine wp_bind_of (wp_mono (readCertificateVerify_spec pub fun hne => ?_) (fun _ _ => id)
    fun _ _ _ => trivial) fun _ w₉ h₉ => ?_
  · obtain ⟨leaf, rest, hlr⟩ := List.exists_cons_of_ne_nil hne
    exact ⟨_, hcr.pubKey hpeer leaf rest hlr⟩
  rw [wp_discardHandshakeBuffer]
  have hchecked := hcr.checked hpeer hder
  -- the CertificateVerify, when a peer certificate was stored
  obtain ⟨hnil, rfl⟩ | ⟨key, cv, sah, w₈, hne, rfl, ⟨-, rfl⟩, halg, hsig, rfl⟩ := h₉
  · refine ⟨hello', hhello, ⟨s, ch, ke, hs, hch, hke, _, _, ⟨cert, status, req, hcert, hstatus, hreq, rfl⟩,
      ⟨clientCerts, ckx, [], hcr.isSome, ?_, rfl⟩, ?_⟩, hchecked.congr rfl rfl, fun _ _ h => ?_⟩
    · have := (hcr.peer_ne_nil hpeer).not.mp (not_not.mpr hnil)
      simpa [OptionalMsg] using this
    · simp [hwire, World.helloSent, World.hashSendAll, World.hashSend, World.hashWrite, recvs, sends]
    · exact absurd (h.symm.trans hnil) (List.cons_ne_nil _ _)
  · refine ⟨hello', hhello, ⟨s, ch, ke, hs, hch, hke, _, _, ⟨cert, status, req, hcert, hstatus, hreq, rfl⟩,
      ⟨clientCerts, ckx, [.certificateVerify cv], hcr.isSome, ?_, rfl⟩, ?_⟩, hchecked.congr rfl rfl,
      fun leaf rest hp => ?_⟩
    · exact (hcr.peer_ne_nil hpeer).mp hne ▸ OptionalMsg.one rfl
    · simp [hwire, World.helloSent, World.hashSendAll, World.hashSend, World.hashWrite, recvs, sends]
    · obtain ⟨hkey, -⟩ := hcr.pubKey hpeer leaf rest hp
      obtain rfl := Option.some.inj hkey
      -- a certificate was asked for, so the transcript hash kept its buffer
      have hca : w.c.config.clientAuth ≠ .noClientCert := hcr.clientAuth_ne hpeer hne
      refine ⟨s, _, cv, sah, _, (Keeps.suite hk).trans hs, rfl, rfl, ?_, halg, hsig⟩
      show ∃ msgs, FinishedHash.write wₐ.hs.finishedHash (.clientKeyExchange ckx) = transcriptHash wₐ.c.vers s.id msgs
      simp only [hfh, Keeps.vers hk, World.hashSendAll, World.hashSend, World.helloSent, hca, if_false,
        transcriptHash_foldl, transcriptHash_write]
      exact ⟨_, rfl⟩

end

end Gnetcli.Tls
