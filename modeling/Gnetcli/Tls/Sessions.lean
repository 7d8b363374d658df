import Gnetcli.Tls.SuiteChoice

/-!
# Resumption chains

A full handshake issues a ticket; a later handshake presents it and resumes;
that one may issue a fresh ticket, and so on. This file follows such chains of
completed runs of `serverHandshake`, across connections:

- `Run`: one run that returned nil, with its configuration, its client records
  and its final state;
- `Session`: what a finished handshake holds of the session: version, suite
  id, master secret, and the client's chain in DER;
- `ResumesInChain`: runs, latest first, whose oldest is a full handshake and
  each later one resumed with the ticket issued last before it;
- **`resumption_chain_keeps_session`**: when alerts fail and tickets decrypt to
  the state they were made from (`TicketRoundTrip`), every run of a chain holds
  the same session, and every ticket the chain issued encrypts it.

The session travels from `processCertsFromClient` through `certsFromClient`
into the ticket (`sendSessionTicket`), and back through `decryptTicket`,
`setCipherSuite` and `doResumeHandshake` (`Completed.resumedSession`).
-/

namespace Gnetcli.Tls

/-- One run of `serverHandshake` that returned nil. -/
structure Run (env : Env) where
  config : Config
  input : List (Except TlsError Record)
  final : World
  ok : serverHandshake env (World.init config input) = .ok () final

/-- The session a finished handshake holds. -/
structure Session where
  vers : Nat
  cipherSuite : Nat
  masterSecret : Bytes
  certificates : List Bytes
  deriving DecidableEq, Repr

def World.session (w : World) : Session :=
  ⟨w.c.vers, w.c.cipherSuite, w.hs.masterSecret, w.c.peerCertificates.map (·.raw)⟩

/-- The state a ticket for the session encodes, as `sendSessionTicket` builds it. -/
def Session.ticketState (s : Session) : SessionState :=
  ⟨s.vers, s.cipherSuite, s.masterSecret, s.certificates, false⟩

/-- `decryptTicket` under `config'` gives back the state `encryptTicket`
encoded under `config`, up to whether the key it used was an old one. -/
def TicketRoundTrip (config config' : Config) : Prop :=
  ∀ st t, config.encryptTicket st = .ok t → ∃ old, config'.decryptTicket t = some { st with usedOldKey := old }

section

variable {env : Env}

/-- The ticket a chain of runs, latest first, issued last. -/
def lastTicket : List (Run env) → Option Bytes
  | [] => none
  | r :: older => (issuedTickets r.final.wire).getLast?.or (lastTicket older)

/-- `runs`, latest first, is a resumption chain: the oldest is a full
handshake, and each later one resumed with the ticket issued last before it. -/
inductive ResumesInChain : List (Run env) → Prop
  | full (r : Run env) : r.final.c.didResume = false → ResumesInChain [r]
  | resume (r : Run env) (older : List (Run env)) : ResumesInChain older → r.final.c.didResume = true →
      r.final.hs.clientHello.map (·.sessionTicket) = lastTicket older → ResumesInChain (r :: older)

theorem Run.completed (r : Run env) : ∃ ch w₀, Completed env r.config r.input ch w₀ r.final := by
  have h := @serverHandshake_run env r.config r.input
  unfold wp at h
  rw [r.ok] at h
  exact h

/-- Every ticket a run issued encrypts the session it ends with. -/
theorem Run.tickets (hA : AlertsFail env) (r : Run env) :
    ∀ t ∈ issuedTickets r.final.wire, r.final.c.config.encryptTicket r.final.session.ticketState = .ok t := by
  obtain ⟨ch, w₀, h⟩ := r.completed
  have he := h.exchanged hA
  rw [World.session, Session.ticketState, ← he.checked.der]
  exact he.tickets

/-- A resumed run holds the session of the ticket its ClientHello presented. -/
theorem Run.resumedSession (hA : AlertsFail env) (r : Run env) (hr : r.final.c.didResume = true) :
    ∃ ch, r.final.hs.clientHello = some ch ∧ ∃ st, r.final.c.config.decryptTicket ch.sessionTicket = some st ∧
      r.final.session = ⟨st.vers, st.cipherSuite, st.masterSecret, st.certificates⟩ := by
  obtain ⟨ch, w₀, h⟩ := r.completed
  obtain ⟨st, hdec, hv, hc, hm, hcerts⟩ := h.resumedSession hr
  refine ⟨ch, h.keeps.clientHello.trans h.hello.clientHello_eq, st, hdec, ?_⟩
  rw [World.session, hv, hc, hm, hcerts, (h.exchanged hA).checked.der]

theorem lastTicket_issued {runs : List (Run env)} {t : Bytes} (h : lastTicket runs = some t) :
    ∃ r ∈ runs, t ∈ issuedTickets r.final.wire := by
  induction runs with
  | nil => cases h
  | cons r older ih =>
    rcases hl : (issuedTickets r.final.wire).getLast? with _ | t'
    · rw [lastTicket, hl] at h
      obtain ⟨r', hr', ht⟩ := ih h
      exact ⟨r', List.mem_cons_of_mem _ hr', ht⟩
    · rw [lastTicket, hl] at h
      cases h
      exact ⟨r, List.mem_cons_self _ _, List.mem_of_mem_getLast? hl⟩

/-- **Resumption chains keep the session.** When every alert fails and tickets
decrypt to the state they were made from, all runs of a resumption chain hold
one session, the full handshake's, and every ticket the chain issued encrypts
that session. -/
theorem resumption_chain_keeps_session (hA : AlertsFail env) {runs : List (Run env)}
    (hchain : ResumesInChain runs)
    (hT : ∀ r ∈ runs, ∀ r' ∈ runs, TicketRoundTrip r.final.c.config r'.final.c.config) :
    ∃ base : Session, ∀ r ∈ runs, r.final.session = base ∧
      ∀ t ∈ issuedTickets r.final.wire, r.final.c.config.encryptTicket base.ticketState = .ok t := by
  induction hchain with
  | full r _ =>
    refine ⟨r.final.session, fun r' hr' => ?_⟩
    obtain rfl := List.mem_singleton.mp hr'
    exact ⟨rfl, r'.tickets hA⟩
  | resume r older _ hr hticket ih =>
    obtain ⟨base, hbase⟩ :=
      ih fun a ha b hb => hT a (List.mem_cons_of_mem _ ha) b (List.mem_cons_of_mem _ hb)
    -- the ticket `r` presented was issued by an older run, for `base`
    obtain ⟨ch, hch, st, hdec, hsess⟩ := r.resumedSession hA hr
    rw [hch, Option.map_some'] at hticket
    obtain ⟨r', hr', ht⟩ := lastTicket_issued hticket.symm
    obtain ⟨old, hdec'⟩ :=
      hT r' (List.mem_cons_of_mem _ hr') r (List.mem_cons_self _ _) _ _ ((hbase r' hr').2 _ ht)
    cases Option.some.inj (hdec.symm.trans hdec')
    have hr_base : r.final.session = base := hsess
    refine ⟨base, fun x hx => ?_⟩
    rcases List.mem_cons.mp hx with rfl | hx
    · exact ⟨hr_base, hr_base ▸ x.tickets hA⟩
    · exact hbase x hx

end

/-! ### A chain of two runs -/

/-- The session of the chain below: TLS 1.2, suite `0x002f`, `strictEnv`'s
master secret, no client certificate. -/
def chainSession : SessionState := ⟨versionTLS12, 0x002f, [9], [], false⟩

/-- A server with tickets on that issues the ticket `[42]` for `chainSession`
only, and decrypts it back. -/
def chainConfig : Config :=
  { plainConfig with
    sessionTicketsDisabled := false, cipherSuites := [0x002f],
    encryptTicket := fun st => if st = chainSession then .ok [42] else .error (.external 3),
    decryptTicket := fun t => if t = [42] then some chainSession else none }

theorem chainConfig_roundTrip : TicketRoundTrip chainConfig chainConfig := by
  intro st t h
  simp only [chainConfig] at h
  split at h
  · cases h
    subst st
    exact ⟨false, rfl⟩
  · cases h

/-- The client's records of a full handshake with an empty ticket. -/
def fullInput : List (Except TlsError Record) :=
  [.ok (.handshake (.clientHello (chainHello []))), .ok (.handshake (.clientKeyExchange [])),
    .ok .changeCipherSpec, .ok (.handshake (.finished [7]))]

/-- The client's records of a resumption with the ticket `[42]`. -/
def resumeInput : List (Except TlsError Record) :=
  [.ok (.handshake (.clientHello (chainHello [42]))), .ok .changeCipherSpec, .ok (.handshake (.finished [7]))]

/-- A full handshake with an empty ticket; it issues `[42]`. -/
def fullRun : Run chainEnv := ⟨chainConfig, fullInput, finalWorld chainEnv chainConfig fullInput, rfl⟩

/-- A resumption with the ticket `[42]`. -/
def resumeRun : Run chainEnv := ⟨chainConfig, resumeInput, finalWorld chainEnv chainConfig resumeInput, rfl⟩

theorem ticket_chain_keeps_session :
    AlertsFail chainEnv ∧ ResumesInChain [resumeRun, fullRun] ∧
      (∀ r ∈ [resumeRun, fullRun], ∀ r' ∈ [resumeRun, fullRun],
        TicketRoundTrip r.final.c.config r'.final.c.config) ∧
      ∃ base : Session, ∀ r ∈ [resumeRun, fullRun], r.final.session = base ∧
        ∀ t ∈ issuedTickets r.final.wire, r.final.c.config.encryptTicket base.ticketState = .ok t :=
  have hA : AlertsFail chainEnv := fun _ _ => rfl
  have hc : ResumesInChain [resumeRun, fullRun] := .resume _ _ (.full _ rfl) rfl rfl
  have hT : ∀ r ∈ [resumeRun, fullRun], ∀ r' ∈ [resumeRun, fullRun],
      TicketRoundTrip r.final.c.config r'.final.c.config := by
    simp only [List.mem_cons, List.mem_singleton, List.not_mem_nil, or_false]
    rintro r (rfl | rfl) r' (rfl | rfl) <;> exact chainConfig_roundTrip
  ⟨hA, hc, hT, resumption_chain_keeps_session hA hc hT⟩

end Gnetcli.Tls
