import Gnetcli.Tls.Flights

/-!
# `serverHandshake` in every run

`serverHandshake` (lines 41–111) runs `readClientHello`, then either the
abbreviated handshake or the full one, then the blocks after the key exchange.
This file follows every run from a fresh connection, for every configuration,
every callee behaviour and every sequence of client records.

## Proof structure

`readClientHello_spec` leaves three cases: an early exit after a nil
`sendAlert` (the full handshake then panics at its first dereference,
`doFullHandshake_noSuite`), a resumption, or a full handshake. The two
handshakes keep `RunInv` (`doResumeHandshake_inv`, `doFullHandshake_inv`), and
so do the blocks after them, each stated once over `RunInv`
(`RunInv.establishKeys`, `RunInv.sendSessionTicket`, `RunInv.sendFinished`,
`RunInv.readFinished`). The two Finished messages are recorded by
`ServerFinishedSent` and `ClientFinishedChecked`, which survive every later
block (`Continues`).

**`serverHandshake_run`** puts the cases together: a run that returns nil is
`Completed`; a stopped run has logged only consistent hash calls and panics
only after an ignored alert or without a certificate (`PanicCause`).
-/

namespace Gnetcli.Tls

/-! ## The two Finished messages -/

/-- The server sent a Finished carrying `serverSum` over the transcript hash of
exactly the handshake messages before it, made for the negotiated version and
suite. -/
def ServerFinishedSent (env : Env) (w : World) : Prop :=
  ∃ s pre fh, w.hs.suite = some s ∧
    pre ++ [.send (.handshake (.finished (env.serverSum fh w.hs.masterSecret)))] <+: w.wire ∧
    fh.Of w.c.vers s.id (handshakeMsgs pre)

/-- The server received a Finished whose verify_data is `clientSum` over the
transcript hash of exactly the handshake messages before it, made for the
negotiated version and suite. -/
def ClientFinishedChecked (env : Env) (w : World) : Prop :=
  ∃ s pre fh verifyData, w.hs.suite = some s ∧ pre ++ [.recv (.handshake (.finished verifyData))] <+: w.wire ∧
    fh.Of w.c.vers s.id (handshakeMsgs pre) ∧ verifyData = env.clientSum fh w.hs.masterSecret

/-- `w'` continues `w` by the records `extra`: the wire grew by exactly `extra`,
hash calls were only added, and the `Settled` parts are unchanged. -/
structure Continues (w : World) (extra : List WireEvent) (w' : World) : Prop where
  wire : w'.wire = w.wire ++ extra
  calls : w.hashCalls <+: w'.hashCalls
  settled : w'.settled = w.settled

namespace Continues

variable {w w₁ w₂ : World} {e e₁ e₂ : List WireEvent}

/-- A step that leaves the wire, the hash calls and the `Settled` parts alone. -/
theorem of_eq (hw : w₁.wire = w.wire) (hc : w₁.hashCalls = w.hashCalls) (hs : w₁.settled = w.settled) :
    Continues w [] w₁ :=
  ⟨by rw [hw, List.append_nil], hc ▸ List.prefix_refl _, hs⟩

theorem trans (h₁ : Continues w e₁ w₁) (h₂ : Continues w₁ e₂ w₂) : Continues w (e₁ ++ e₂) w₂ :=
  ⟨by rw [h₂.wire, h₁.wire, List.append_assoc], h₁.calls.trans h₂.calls, h₂.settled.trans h₁.settled⟩

theorem grows (h : Continues w e w₁) : w.wire <+: w₁.wire := h.wire ▸ List.prefix_append _ _

theorem masterSecret (h : Continues w e w₁) : w₁.hs.masterSecret = w.hs.masterSecret :=
  congrArg Settled.masterSecret h.settled

end Continues

section

variable {env : Env} {w w' : World} {e : List WireEvent}

theorem ServerFinishedSent.extend (h : ServerFinishedSent env w) (hc : Continues w e w') :
    ServerFinishedSent env w' := by
  obtain ⟨-, hv, hsuite, hm, -⟩ := Settled.mk.inj hc.settled
  obtain ⟨s, pre, fh, hs, hp, hf⟩ := h
  exact ⟨s, pre, fh, hsuite ▸ hs, by rw [hm]; exact hp.trans hc.grows, hv ▸ hf⟩

theorem ClientFinishedChecked.extend (h : ClientFinishedChecked env w) (hc : Continues w e w') :
    ClientFinishedChecked env w' := by
  obtain ⟨-, hv, hsuite, hm, -⟩ := Settled.mk.inj hc.settled
  obtain ⟨s, pre, fh, vd, hs, hp, hf, hvd⟩ := h
  exact ⟨s, pre, fh, vd, hsuite ▸ hs, hp.trans hc.grows, hv ▸ hf, by rw [hm]; exact hvd⟩

end

/-- `ticket` is what `sendSessionTicket` sent (lines 776–806): a
NewSessionTicket exactly when tickets were agreed, encrypting the session `st`
under suite `s`. -/
def TicketSent (st : Settled) (s : CipherSuite) (hello : ServerHelloMsg) (ticket : List HandshakeMsg) :
    Prop :=
  OptionalMsg hello.ticketSupported .newSessionTicket ticket ∧
    ∀ t ∈ ticket.filterMap HandshakeMsg.ticket?,
      st.config.encryptTicket ⟨st.vers, s.id, st.masterSecret, st.certsFromClient, false⟩ = .ok t

/-! ## The blocks after the key exchange -/

namespace RunInv

variable {env : Env} {w₀ w : World} {hello : ServerHelloMsg} {cause : Prop}

theorem stopsCalm {e : Stop} {w' : World} (h : RunInv w₀ hello w) (hs : StopsCalm False w e w') :
    StopsConsistent cause w₀ e w' :=
  ⟨h.calls.trans (.of_eq hs.1), fun p hp => (hs.2 p hp).elim⟩

theorem establishKeys {s : CipherSuite} {ch : ClientHelloMsg} (h : RunInv w₀ hello w)
    (hs : w₀.hs.suite = some s) (hch : w₀.hs.clientHello = some ch) :
    wp (establishKeys env) (fun _ w' => RunInv w₀ hello w' ∧ Continues w [] w')
      (StopsConsistent cause w₀) w := by
  refine wp_mono (establishKeys_spec (h.keeps.suite.trans hs) (h.keeps.clientHello.trans hch) h.hello_eq)
    ?_ fun _ _ => h.stopsCalm
  rintro _ _ ⟨inCipher, outCipher, rfl⟩
  exact ⟨h.frame rfl rfl rfl rfl rfl rfl, .of_eq rfl rfl rfl⟩

theorem sendSessionTicket {s : CipherSuite} (h : RunInv w₀ hello w) (hs : w₀.hs.suite = some s) :
    wp (sendSessionTicket env)
      (fun _ w' => RunInv w₀ hello w' ∧ ∃ ticket, TicketSent w.settled s hello ticket ∧
        Continues w (sends ticket) w')
      (StopsConsistent cause w₀) w := by
  refine wp_mono (sendSessionTicket_spec (h.keeps.suite.trans hs) h.hello_eq) ?_ fun _ _ => h.stopsCalm
  rintro _ _ (⟨ht, rfl⟩ | ⟨ht, ticket, henc, rfl⟩)
  · exact ⟨h, [], ⟨by simp [OptionalMsg, ht], by simp⟩, .of_eq rfl rfl rfl⟩
  · exact ⟨h.hashSend _, [.newSessionTicket ticket],
      ⟨by simp [OptionalMsg, ht, HandshakeMsg.kind], by simpa [HandshakeMsg.ticket?, World.settled] using henc⟩,
      rfl, List.prefix_refl _, rfl⟩

/-- `sendFinished` keeps the invariant, logs a consistent `serverSum` call,
sends the Finished over the whole transcript, and sets the suite id. -/
theorem sendFinished {s : CipherSuite} (copyOut : Bool) (h : RunInv w₀ hello w)
    (hs : w₀.hs.suite = some s) :
    wp (sendFinished env copyOut)
      (fun _ w' => RunInv w₀ hello w' ∧ ServerFinishedSent env w' ∧ w'.c.cipherSuite = s.id ∧
        ∃ verifyData, Continues w [.send .changeCipherSpec, .send (.handshake (.finished verifyData))] w')
      (StopsConsistent cause w₀) w := by
  refine wp_mono (sendFinished_spec copyOut (h.keeps.suite.trans hs)) ?_
    fun _ _ hs => h.stops hs False.elim
  rintro _ _ rfl
  have hof : w.hs.finishedHash.Of w.c.vers s.id (handshakeMsgs (w.wire ++ [.send .changeCipherSpec])) := by
    have hl : w.hs.finishedHash.log = handshakeMsgs w.wire := h.synced
    simpa [h.keeps.vers, hl, WireEvent.handshakeMsg?] using h.made s hs
  refine ⟨⟨h.keeps, h.hello_eq, h.didResume, ?_, h.calls.trans ((consistent_serverSum rfl).since h.synced),
      fun s' hs' => (h.made s' hs').write _⟩,
    ⟨s, _, w.hs.finishedHash, h.keeps.suite.trans hs, List.prefix_refl _, hof⟩, rfl,
    env.serverSum w.hs.finishedHash w.hs.masterSecret, ?_, List.prefix_append _ _, rfl⟩ <;>
  simp [Synced, World.hashSend, FinishedHash.write, h.synced.symm, WireEvent.handshakeMsg?]

/-- `readFinished` keeps the invariant, logs a consistent `clientSum` call,
accepts only a Finished equal to `clientSum` over the whole transcript, and
reads the client's Finished flight. -/
theorem readFinished {s : CipherSuite} (copyOut : Bool) (h : RunInv w₀ hello w) (hs : w₀.hs.suite = some s) :
    wp (readFinished env copyOut)
      (fun _ w' => RunInv w₀ hello w' ∧ ClientFinishedChecked env w' ∧ w'.c.cipherSuite = w.c.cipherSuite ∧
        ∃ cfin, ClientFinish hello cfin ∧ Continues w cfin w')
      (StopsConsistent cause w₀) w := by
  unfold Gnetcli.Tls.readFinished
  refine wp_bind_of (wp_mono readChangeCipherSpec_spec (fun _ _ => id) fun _ _ => h.stopsCalm) ?_
  rintro _ w₁ hr₁
  have h₁ := h.receivedCCS hr₁
  obtain ⟨-, rfl⟩ := hr₁
  refine wp_bind_of (wp_mono (readNextProtocol_spec h₁.hello_eq) (fun _ _ => id)
    fun _ _ => h₁.stopsCalm) ?_
  rintro _ w₂ h₂
  -- the NextProtocol message, when NPN was advertised
  obtain ⟨npn, hnpn, h₂, hcs, c₂⟩ : ∃ npn, OptionalMsg hello.nextProtoNeg .nextProtocol npn ∧
      RunInv w₀ hello w₂ ∧ w₂.c.cipherSuite = w.c.cipherSuite ∧
      Continues w (.recv .changeCipherSpec :: recvs npn) w₂ := by
    rcases h₂ with ⟨hn, rfl⟩ | ⟨hn, proto, w₃, hr, rfl⟩
    · exact ⟨[], by simp [OptionalMsg, hn], h₁, rfl, rfl, List.prefix_refl _, rfl⟩
    · have h₃ := h₁.received hr
      obtain ⟨-, rfl⟩ := hr
      exact ⟨[.nextProtocol proto], by simp [OptionalMsg, hn, HandshakeMsg.kind], h₃.frame rfl rfl rfl rfl rfl rfl,
        rfl, by simp [World.hashWrite], List.prefix_refl _, rfl⟩
  refine wp_mono (readClientFinished_spec copyOut) ?_ fun _ _ hs => h₂.stops hs False.elim
  rintro _ _ ⟨verifyData, w₃, hr, rfl, rfl⟩
  have h₃ := h₂.received hr
  obtain ⟨-, rfl⟩ := hr
  have hof : w₂.hs.finishedHash.Of w₂.c.vers s.id (handshakeMsgs w₂.wire) := by
    have hl : w₂.hs.finishedHash.log = handshakeMsgs w₂.wire := h₂.synced
    simpa [h₂.keeps.vers, hl] using h₂.made s hs
  exact ⟨⟨h₃.keeps, h₃.hello_eq, h₃.didResume, h₃.synced,
      h₂.calls.trans ((consistent_clientSum rfl).since h₂.synced), h₃.made⟩,
    ⟨s, w₂.wire, _, _, h₂.keeps.suite.trans hs, List.prefix_refl _, hof, rfl⟩, hcs, _,
    ⟨npn, env.clientSum w₂.hs.finishedHash w₂.hs.masterSecret, hnpn, rfl⟩,
    by simp [c₂.wire, World.hashWrite], c₂.calls.trans (List.prefix_append _ _), c₂.settled⟩

end RunInv

/-! ## The two handshakes -/

section

variable {env : Env} {w : World} {cause : Prop}

theorem CertsProcessed.certsFromClient {certificates : List Bytes} {pub : Option PublicKey} {w' : World}
    (h : CertsProcessed env w certificates pub w') : w'.hs.certsFromClient = certificates := by
  obtain ⟨certs, chains, -, -, ⟨-, -, -, rfl⟩ | ⟨-, ⟨-, -, rfl⟩ | ⟨leaf, rest, -, -, -, rfl⟩⟩⟩ := h <;> rfl

/-- **The abbreviated handshake keeps the invariant** (lines 374–405), from the
state `readClientHello` leaves when it resumes, and takes the ticket's master
secret and client certificates. -/
theorem doResumeHandshake_inv {s : CipherSuite} {ch : ClientHelloMsg} {hello : ServerHelloMsg}
    {st : SessionState} (hs : w.hs.suite = some s) (hch : w.hs.clientHello = some ch)
    (hh : w.hs.hello = some hello) (hst : w.hs.sessionState = some st)
    (hwire : handshakeMsgs w.wire = [.clientHello ch]) (hder : w.hs.certsFromClient = []) :
    wp (doResumeHandshake env)
      (fun _ w' => ∃ hello', RunInv w hello' w' ∧ hello'.ticketSupported = st.usedOldKey ∧
        hello'.nextProtoNeg = hello.nextProtoNeg ∧ w'.hs.masterSecret = st.masterSecret ∧
        w'.hs.certsFromClient = st.certificates)
      (StopsConsistent cause w) w := by
  refine wp_mono (doResumeHandshake_spec hs hch hh hst) ?_ fun _ _ h => h.stopsConsistent False.elim
  rintro _ _ ⟨hello', w₁, pub, w₂, hhello, hw₁, hw₂, rfl⟩
  have h₁ : RunInv w hello' w₁ := by
    subst hw₁
    refine ⟨rfl, rfl, rfl, by simp [Synced, hwire, WireEvent.handshakeMsg?], .of_eq rfl, fun s' hs' => .inr ?_⟩
    cases hs.symm.trans hs'
    simp [transcriptHash, foldl_write, newFinishedHash, FinishedHash.write]
  refine ⟨hello', ?_, by rw [hhello], by rw [hhello], rfl, ?_⟩
  · rcases hw₂ with ⟨-, rfl⟩ | ⟨-, hp⟩
    · exact h₁.masterSecret _
    · exact (h₁.certsProcessed hp).masterSecret _
  · rcases hw₂ with ⟨hc, rfl⟩ | ⟨-, hp⟩
    · subst hw₁
      exact hder.trans hc.symm
    · exact hp.certsFromClient

theorem writeServerHello_noSuite (ch : ClientHelloMsg) (hs : w.hs.suite = none) :
    wp (writeServerHello env ch) (fun _ _ => False)
      (fun e w' => (∃ p, e = .panic p) ∧ w'.hashCalls = w.hashCalls) w := by
  simp only [writeServerHello, wp_bind, wp_get, wp_modifyHello]
  split <;> simp [hs]

/-- With no suite, `sendServerHello` panics before it logs a hash call. -/
theorem sendServerHello_noSuite {ch : ClientHelloMsg}
    (hs : w.hs.suite = none) (hch : w.hs.clientHello = some ch) :
    wp (sendServerHello env) (fun _ _ => False)
      (fun e w' => (∃ p, e = .panic p) ∧ w'.hashCalls = w.hashCalls) w := by
  simp only [sendServerHello, wp_bind, wp_get, wp_getClientHello, hch, wp_ite]
  split
  · -- the OCSP flag set first, on a ServerHello that may be missing
    simp only [wp_modifyHello]
    split
    · exact writeServerHello_noSuite ch hs
    · simp
  · exact writeServerHello_noSuite ch hs

/-- After an early exit there is no suite: the full handshake panics in
`sendServerHello`, having logged no hash call. -/
theorem doFullHandshake_noSuite (hs : w.hs.suite = none) (hch : ∃ ch, w.hs.clientHello = some ch) :
    wp (doFullHandshake env) (fun _ _ => False)
      (fun e w' => (∃ p, e = .panic p) ∧ w'.hashCalls = w.hashCalls) w := by
  obtain ⟨ch, hch⟩ := hch
  unfold doFullHandshake
  exact wp_bind_of (sendServerHello_noSuite hs hch) fun _ _ h => h.elim

end

/-! ## What a run exchanged when alerts fail -/

/-- What a run that read `ch` exchanged when alerts fail, in its final state
`w`: the records form a word of the handshake grammar, the client-certificate
checks hold, a full handshake with a peer certificate checked its
CertificateVerify, and every ticket sent encrypts the final session. -/
structure Exchanged (env : Env) (ch : ClientHelloMsg) (w : World) : Prop where
  word : ∃ hello, w.hs.hello = some hello ∧
    ((w.c.didResume = false ∧ ∃ s ke, w.hs.suite = some s ∧
        (s.ka w.c.vers).generateServerKeyExchange w.c.config w.hs.cert ch hello = .ok ke ∧
        FullHandshakeWord ch w.c.config.clientAuth s.flags.noCerts hello ke w.wire) ∨
      (w.c.didResume = true ∧ ∃ st, w.hs.sessionState = some st ∧ hello.ticketSupported = st.usedOldKey ∧
        ResumeHandshakeWord ch hello w.wire))
  checked : ClientAuthChecked env w
  signed : w.c.didResume = false → ∀ leaf rest, w.c.peerCertificates = leaf :: rest →
    CertificateVerified env leaf.publicKey w
  tickets : ∀ t ∈ issuedTickets w.wire,
    w.c.config.encryptTicket ⟨w.c.vers, w.c.cipherSuite, w.hs.masterSecret, w.hs.certsFromClient, false⟩ =
      .ok t

section

variable {env : Env} {w₀ w₁ w : World} {ch : ClientHelloMsg} {hello : ServerHelloMsg} {s : CipherSuite}
  {cfin : List WireEvent} {ticket : List HandshakeMsg} {verifyData : Bytes}

/-- The tickets a run sent are those of `sendSessionTicket`, which encrypt the
session it ends with. -/
theorem TicketSent.issued (ht : TicketSent w₁.settled s hello ticket) (pre : List WireEvent)
    {post : List WireEvent} (hc : Continues w₁ (pre ++ (sends ticket ++ post)) w)
    (hw : issuedTickets w₁.wire = []) (hpre : issuedTickets pre = []) (hpost : issuedTickets post = [])
    (hcs : w.c.cipherSuite = s.id) :
    ∀ t ∈ issuedTickets w.wire,
      w.c.config.encryptTicket ⟨w.c.vers, w.c.cipherSuite, w.hs.masterSecret, w.hs.certsFromClient, false⟩ =
        .ok t := by
  intro t ht'
  simp only [hc.wire, issuedTickets_append, hw, hpre, hpost, issuedTickets_sends, List.nil_append,
    List.append_nil] at ht'
  have h := ht.2 t ht'
  rw [← hc.settled] at h
  rw [hcs]
  exact h

/-- A full handshake that went through when alerts fail: `FullFlight`, then the
client's Finished, the ticket, and the server's Finished. -/
theorem Exchanged.full (hf : FullFlight env w₀ hello w₁)
    (hw₀ : w₀.wire = [.recv (.handshake (.clientHello ch))]) (hch : w₀.hs.clientHello = some ch)
    (hs : w₀.hs.suite = some s) (hsync : Synced w₁) (hcf : ClientFinish hello cfin) (ht : TicketSent w₁.settled s hello ticket)
    (hc : Continues w₁
      (cfin ++ (sends ticket ++ [.send .changeCipherSpec, .send (.handshake (.finished verifyData))])) w)
    (hk : Keeps w₀ w) (hh : w.hs.hello = some hello) (hd : w.c.didResume = false)
    (hcs : w.c.cipherSuite = s.id) : Exchanged env ch w := by
  obtain ⟨s', ch', ke, hs', hch', hke, server, client, hsf, hcl, hw₁⟩ := hf.flights
  cases Option.some.inj (hs'.symm.trans hs)
  cases Option.some.inj (hch'.symm.trans hch)
  have hp : w.c.peerCertificates = w₁.c.peerCertificates := congrArg Settled.peerCertificates hc.settled
  refine ⟨⟨hello, hh, .inl ⟨hd, s, ke, hk.suite.trans hs, ?_, ?_⟩⟩, hf.checked.of_settled hc.settled,
    fun _ leaf rest hl => (hf.certificateVerified hsync (hp ▸ hl)).extend hc.grows hc.settled,
    ht.issued cfin hc (by simp [hw₁, hw₀, hsf.issuedTickets, WireEvent.ticket?]) hcf.issuedTickets
      (by simp [WireEvent.ticket?, HandshakeMsg.ticket?]) hcs⟩
  · rwa [hk.vers, hk.config, hk.cert]
  · rw [hk.config]
    exact ⟨server, client, cfin, _, hsf, hcl, hcf, ⟨ticket, verifyData, ht.1, rfl⟩,
      by simp [hc.wire, hw₁, hw₀]⟩

/-- An abbreviated handshake that went through when alerts fail: ServerHello,
the ticket, the server's Finished, and the client's. -/
theorem Exchanged.resume {st : SessionState}
    (hw₁ : w₁.wire = [.recv (.handshake (.clientHello ch)), .send (.handshake (.serverHello hello))])
    (hchecked : ClientAuthChecked env w₁) (ht : TicketSent w₁.settled s hello ticket)
    (hcf : ClientFinish hello cfin)
    (hc : Continues w₁
      (sends ticket ++ ([.send .changeCipherSpec, .send (.handshake (.finished verifyData))] ++ cfin)) w)
    (hh : w.hs.hello = some hello) (hst : w.hs.sessionState = some st)
    (hts : hello.ticketSupported = st.usedOldKey) (hd : w.c.didResume = true)
    (hcs : w.c.cipherSuite = s.id) : Exchanged env ch w :=
  ⟨⟨hello, hh, .inr ⟨hd, st, hst, hts, _, cfin, ⟨ticket, verifyData, ht.1, rfl⟩, hcf, by simp [hc.wire, hw₁]⟩⟩,
    hchecked.of_settled hc.settled, fun h => absurd (hd.symm.trans h) (by decide),
    ht.issued [] hc (by simp [hw₁, WireEvent.ticket?, HandshakeMsg.ticket?]) rfl
      (by simp [hcf.issuedTickets, WireEvent.ticket?, HandshakeMsg.ticket?]) hcs⟩

end

/-! ## Every run -/

section

variable {env : Env}

theorem CallsConsistentSince.all {w₀ w : World} (h : CallsConsistentSince w₀ w) (h₀ : w₀.hashCalls = []) :
    ∀ c ∈ w.hashCalls, c.Consistent := by
  obtain ⟨extra, he, hc⟩ := h
  simpa [he, h₀] using hc

/-- How a run of `serverHandshake` can panic: `readClientHello` went on with no
suite after a nil `sendAlert`, or the configuration gave no certificate. -/
def PanicCause (env : Env) (config : Config) (input : List (Except TlsError Record)) : Prop :=
  (∃ w, EarlyExit env w) ∨ ∃ ch w, HelloDone config input ch w ∧ w.hs.cert = none

/-- What a run of `serverHandshake` that returns nil leaves, with the ClientHello
`ch` it read and the state `w₀` at the end of `readClientHello`. -/
structure Completed (env : Env) (config : Config) (input : List (Except TlsError Record))
    (ch : ClientHelloMsg) (w₀ w : World) : Prop where
  hello : HelloDone config input ch w₀
  decision : ResumeDecision env ch w₀ w.c.didResume
  keeps : Keeps w₀ w
  calls : ∀ c ∈ w.hashCalls, c.Consistent
  cipherSuite : ∃ s, w₀.hs.suite = some s ∧ w.c.cipherSuite = s.id
  serverFinished : ServerFinishedSent env w
  clientFinished : ClientFinishedChecked env w
  complete : w.c.handshakeComplete = true
  resumed : w.c.didResume = true → ∃ st, w₀.hs.sessionState = some st ∧
    w.hs.masterSecret = st.masterSecret ∧ w.hs.certsFromClient = st.certificates
  exchanged : AlertsFail env → Exchanged env ch w

/-- **Every run of `serverHandshake`**: a run that returns nil is `Completed`; a
stopped run has logged only consistent hash calls, and panics only for a
`PanicCause`. -/
theorem serverHandshake_run (config : Config) (input : List (Except TlsError Record)) :
    wp (serverHandshake env) (fun _ w => ∃ ch w₀, Completed env config input ch w₀ w)
      (fun e w => (∀ c ∈ w.hashCalls, c.Consistent) ∧ ∀ p, e = .panic p → PanicCause env config input)
      (World.init config input) := by
  unfold serverHandshake
  refine wp_bind_of (wp_mono (readClientHello_spec config input) (fun _ _ => id)
    fun _ _ h => ⟨by simp [h.1, World.init], fun p hp => (h.2 p hp).elim⟩) ?_
  rintro isResume w₀ hr
  rcases hr with ⟨ch, hd, hdec⟩ | ⟨rfl, hex⟩
  · rw [wp_bind, wp_modifyConn]
    obtain ⟨s, hs⟩ := hd.suite_some
    obtain ⟨hello, hh, -⟩ := hd.hello
    have hwire : handshakeMsgs w₀.wire = [.clientHello ch] := by
      simp [hd.wire_eq, WireEvent.handshakeMsg?]
    refine wp_stop_mono (fun e w (h : StopsConsistent (w₀.hs.cert = none)
        { w₀ with c := { w₀.c with buffering := true } } e w) =>
      ⟨h.1.all hd.hashCalls_eq, fun p hp => Or.inr ⟨ch, w₀, hd, h.2 p hp⟩⟩) ?_
    cases isResume
    · -- the full handshake, then the client's Finished before the server's
      simp only [Bool.false_eq_true, if_false]
      refine wp_bind_of (wp_and_imp (doFullHandshake_inv hd.clientHello_eq hh hs hwire hd.peerCertificates_eq)
        fun hA => doFullHandshake_flight hA hd.clientHello_eq hh hs hd.peerCertificates_eq
          hd.certsFromClient_eq) ?_
      rintro _ w₁ ⟨⟨hello₁, h₁, -, -⟩, hf₁⟩
      refine wp_bind_of (h₁.establishKeys hs hd.clientHello_eq) ?_
      rintro _ w₂ ⟨h₂, c₂⟩
      refine wp_bind_of (h₂.readFinished true hs) ?_
      rintro _ w₃ ⟨h₃, hcf, -, cfin, hcfin, c₃⟩
      rw [wp_bind, wp_modifyConn]
      refine wp_bind_of (RunInv.sendSessionTicket (h₃.frame rfl rfl rfl rfl rfl rfl) hs) ?_
      rintro _ w₄ ⟨h₄, ticket, ht, c₄⟩
      refine wp_bind_of (h₄.sendFinished false hs) ?_
      rintro _ w₅ ⟨h₅, hsf, hcs, verifyData, c₅⟩
      rw [wp_bind, wp_flush]
      split
      · exact ⟨h₅.calls, fun _ hp => by cases hp⟩
      rw [wp_modifyConn]
      have hd₅ : w₅.c.didResume = false := h₅.didResume.trans hd.didResume_eq
      have c₄₅ := c₄.trans c₅
      have c : Continues w₃ _ w₅ := ⟨c₄₅.1, c₄₅.2, c₄₅.3⟩
      refine ⟨ch, w₀, hd, hd₅ ▸ hdec, h₅.keeps, h₅.calls.all hd.hashCalls_eq, ⟨s, hs, hcs⟩, hsf,
        (hcf.extend c :), rfl, fun hr => absurd (hr.symm.trans hd₅) (by decide), fun hA => ?_⟩
      obtain ⟨hello', hf⟩ := hf₁ hA
      cases Option.some.inj (hf.hello_eq.symm.trans h₁.hello_eq)
      have c₂₃ := c₂.trans c₃
      have cc := c₂₃.trans c
      exact Exchanged.full hf hd.wire_eq hd.clientHello_eq hs h₁.synced hcfin (c₂₃.settled ▸ ht)
        ⟨cc.1, cc.2, cc.3⟩ h₅.keeps h₅.hello_eq hd₅ hcs
    · -- the abbreviated handshake, then the server's Finished before the client's
      simp only [if_true]
      obtain ⟨st, -, hst, -, -, -, -, hallow⟩ := id hdec
      refine wp_bind_of (wp_and_imp (doResumeHandshake_inv hs hd.clientHello_eq hh hst hwire
        hd.certsFromClient_eq) fun hA => doResumeHandshake_flight hA hs hd.clientHello_eq hh hst hallow
          hd.peerCertificates_eq hd.certsFromClient_eq) ?_
      rintro _ w₁ ⟨⟨hello₁, h₁, hts, -, hms, hcerts⟩, hf₁⟩
      refine wp_bind_of (h₁.establishKeys hs hd.clientHello_eq) ?_
      rintro _ w₂ ⟨h₂, c₂⟩
      rw [wp_bind, wp_getHello, h₂.hello_eq]
      refine wp_ite_bind_of (by
        split
        · exact h₂.sendSessionTicket hs
        · next hn => exact ⟨h₂, [], ⟨by simpa [OptionalMsg] using hn, by simp⟩, .of_eq rfl rfl rfl⟩) ?_
      rintro _ w₃ ⟨h₃, ticket, ht, c₃⟩
      refine wp_bind_of (h₃.sendFinished true hs) ?_
      rintro _ w₄ ⟨h₄, hsf, hcs, verifyData, c₄⟩
      rw [wp_bind, wp_flush]
      split
      · exact ⟨h₄.calls, fun _ hp => by cases hp⟩
      rw [wp_bind, wp_modifyConn]
      refine wp_bind_of (RunInv.readFinished false (h₄.frame rfl rfl rfl rfl rfl rfl) hs) ?_
      rintro _ w₅ ⟨h₅, hcf, hcs₅, cfin, hcfin, c₅⟩
      simp only [wp_bind, wp_modifyConn]
      have c₄₅ : Continues w₄ _ w₅ := ⟨c₅.1, c₅.2, c₅.3⟩
      have cc := c₂.trans (c₃.trans (c₄.trans c₄₅))
      refine ⟨ch, w₀, hd, hdec, h₅.keeps, h₅.calls.all hd.hashCalls_eq, ⟨s, hs, hcs₅.trans hcs⟩,
        (hsf.extend c₄₅ :), hcf, rfl, fun _ => ⟨st, hst, cc.masterSecret.trans hms,
          (congrArg Settled.certsFromClient cc.settled).trans hcerts⟩, fun hA => ?_⟩
      obtain ⟨hchecked, hello', hh₁, hw₁⟩ := hf₁ hA
      cases Option.some.inj (hh₁.symm.trans h₁.hello_eq)
      exact Exchanged.resume (hw₁.trans (congrArg (· ++ _) hd.wire_eq)) hchecked (c₂.settled ▸ ht) hcfin
        ⟨cc.1, cc.2, cc.3⟩ h₅.hello_eq (h₅.keeps.sessionState.trans hst) hts rfl (hcs₅.trans hcs)
  · rw [wp_bind, wp_modifyConn]
    simp only [Bool.false_eq_true, if_false]
    exact wp_bind_of (wp_mono (doFullHandshake_noSuite hex.1 hex.2.2.1) (fun _ _ => id)
      fun e w ⟨⟨p, hp⟩, hc⟩ => ⟨by simp [hc, hex.2.1], fun _ _ => Or.inl ⟨w₀, hex⟩⟩) fun _ _ h => h.elim

end

end Gnetcli.Tls
