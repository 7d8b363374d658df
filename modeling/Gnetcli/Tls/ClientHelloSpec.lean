import Gnetcli.Tls.ClientHello
import Mathlib.Tactic.SplitIfs

/-!
# One spec lemma per block of `readClientHello`

Each block of `readClientHello` gets a `wp` lemma: on a normal return, the
world it leaves, written as an update of the world it started from; on a stop,
`StopsCalm`: no hash call logged, and a panic only for the stated cause. The
lemma `readClientHello_spec` chains them.

Two pure readings of the source are used by the statements:
`ClientHelloMsg.info` is what `clientHelloInfo` builds, and `firstQualifying`
is the suite the negotiation loop of lines 290–294 installs.
-/

namespace Gnetcli.Tls

/-- A stopped block logged no hash call, and panicked only if `cause` holds. -/
def StopsCalm (cause : Prop) (w : World) (e : Stop) (w' : World) : Prop :=
  w'.hashCalls = w.hashCalls ∧ ∀ p, e = .panic p → cause

@[simp] theorem stopsCalm_error {cause : Prop} {w w' : World} {e : TlsError} :
    StopsCalm cause w (.error e) w' ↔ w'.hashCalls = w.hashCalls := by
  simp [StopsCalm]

@[simp] theorem stopsCalm_panic {cause : Prop} {w w' : World} {p : Panic} :
    StopsCalm cause w (.panic p) w' ↔ w'.hashCalls = w.hashCalls ∧ cause := by
  simp [StopsCalm]

/-- Chain a block whose stops are calm relative to the world it started from,
in a run whose hash calls are still those of `w₀`. -/
theorem wp_bind_calm {α β : Type} {m : HsM α} {f : α → HsM β} {P : α → World → Prop}
    {Q : β → World → Prop} {cause : Prop} {w w₀ : World}
    (h : wp m P (StopsCalm cause w) w) (hw : w.hashCalls = w₀.hashCalls)
    (hf : ∀ a w', P a w' → wp (f a) Q (StopsCalm cause w₀) w') :
    wp (m >>= f) Q (StopsCalm cause w₀) w :=
  wp_bind_of (wp_mono h (fun _ _ => id) fun _ _ h' => ⟨h'.1.trans hw, h'.2⟩) hf

/-- `ClientHelloInfo.SupportedVersions` for a client's maximum version. -/
def supportedVersionsOf (vers : Nat) : List Nat :=
  if vers > versionTLS12 then suppVersArray
  else if vers ≥ versionSSL30 then suppVersArray.drop (versionTLS12 - vers)
  else []

/-- The `ClientHelloInfo` that `clientHelloInfo` builds from a ClientHello. -/
def ClientHelloMsg.info (ch : ClientHelloMsg) : ClientHelloInfo :=
  { cipherSuites := ch.cipherSuites
    serverName := ch.serverName
    supportedCurves := ch.supportedCurves
    supportedPoints := ch.supportedPoints
    signatureSchemes := ch.signatureAndHashes.map fun sah => sah.hash * 256 + sah.signature
    supportedProtos := ch.alpnProtocols
    supportedVersions := supportedVersionsOf ch.vers }

/-- The suite the negotiation loop installs: the first id of `prefs` that
`setCipherSuite` accepts, with the entry it accepts. -/
def firstQualifying (table : List CipherSuite) (hs : ServerHandshakeState) (config : Config)
    (supported : List Nat) (version : Nat) (prefs : List Nat) : Option CipherSuite :=
  prefs.findSome? fun id => selectCipherSuite table hs config id version supported

/-- The configuration in force after lines 132–147: the hook's replacement,
or the original one when there is no hook or it returns nil. -/
def ConfigForClient (config : Config) (info : ClientHelloInfo) (cfg : Config) : Prop :=
  (config.getConfigForClient = none ∧ cfg = config) ∨
  ∃ getConfigForClient, config.getConfigForClient = some getConfigForClient ∧
    (getConfigForClient info = .ok none ∧ cfg = config ∨ getConfigForClient info = .ok (some cfg))

def PublicKey.isECDSA : PublicKey → Bool
  | .ecdsa _ => true
  | _ => false

def PublicKey.isRSA : PublicKey → Bool
  | .rsa _ => true
  | _ => false

/-- The private-key checks of lines 253–278 pass. -/
def PrivateKey.Supported (key : PrivateKey) : Prop :=
  (key.signer = true → key.publicKey.isECDSA || key.publicKey.isRSA) ∧
  (key.decrypter = true → key.publicKey.isRSA)

def PrivateKey.signsECDSA (key : PrivateKey) : Bool := key.signer && key.publicKey.isECDSA

def PrivateKey.signsRSA (key : PrivateKey) : Bool := key.signer && key.publicKey.isRSA

def PrivateKey.decryptsRSA (key : PrivateKey) : Bool := key.decrypter && key.publicKey.isRSA

/-- A block returned `false` after `sendAlert` returned nil on its
`internalError` alert; suite, ClientHello and hash calls are as they were. -/
def AlertIgnored (env : Env) (w w' : World) : Prop :=
  env.sendAlert w.wire .internalError = none ∧ w'.wire = w.wire ++ [.alert .internalError] ∧
  w'.hs.suite = w.hs.suite ∧ w'.hs.clientHello = w.hs.clientHello ∧ w'.hashCalls = w.hashCalls

/-- `readClientHello` returned `false, nil` before it chose a suite: an
`internalError` alert went out and `sendAlert` returned nil. -/
def EarlyExit (env : Env) (w : World) : Prop :=
  w.hs.suite = none ∧ w.hashCalls = [] ∧ (∃ ch, w.hs.clientHello = some ch) ∧
  ∃ pre, w.wire = pre ++ [.alert .internalError] ∧ env.sendAlert pre .internalError = none

theorem AlertIgnored.earlyExit {env : Env} {w w' : World} (h : AlertIgnored env w w')
    (hs : w.hs.suite = none) (hc : w.hashCalls = []) {ch : ClientHelloMsg}
    (hch : w.hs.clientHello = some ch) : EarlyExit env w' :=
  ⟨h.2.2.1.trans hs, h.2.2.2.2.trans hc, ⟨ch, h.2.2.2.1.trans hch⟩, w.wire, h.2.1, h.1⟩

/-- The suite a decrypted ticket resumes with, if its version and suite still
fit (lines 339–357). -/
def ticketSuite (env : Env) (w : World) (ch : ClientHelloMsg) (st : SessionState) :
    Option CipherSuite :=
  if w.c.vers = st.vers ∧ ch.cipherSuites.contains st.cipherSuite then
    selectCipherSuite env.cipherSuites w.hs w.c.config st.cipherSuite st.vers w.c.config.cipherSuites
  else none

/-- The preference list and the list it is matched against (lines 281–288). -/
def preferenceLists (config : Config) (ch : ClientHelloMsg) : List Nat × List Nat :=
  if config.preferServerCipherSuites then (config.cipherSuites, ch.cipherSuites)
  else (ch.cipherSuites, config.cipherSuites)

/-- `setCipherSuite`'s loop accepts `id` iff `id` is in the list and its table
entry passes the checks. -/
theorem selectCipherSuite_eq (table : List CipherSuite) (hs : ServerHandshakeState)
    (config : Config) (id version : Nat) (supported : List Nat) :
    selectCipherSuite table hs config id version supported =
      if id ∈ supported then
        (lookupCipherSuite table id).filter (suiteAcceptable hs config version)
      else none := by
  induction supported with
  | nil => rfl
  | cons x rest ih =>
    simp only [selectCipherSuite, ih, List.mem_cons]
    by_cases hx : id = x
    · subst hx
      cases lookupCipherSuite table id with
      | none => simp
      | some c => by_cases hc : suiteAcceptable hs config version c <;> simp [hc, Option.filter]
    · simp [hx]

/-- `setCipherSuite`'s checks read only the four capability flags. -/
theorem selectCipherSuite_congr {table : List CipherSuite} {hs hs' : ServerHandshakeState}
    {config : Config} {id version : Nat} {supported : List Nat}
    (h₁ : hs.ellipticOk = hs'.ellipticOk) (h₂ : hs.ecdsaOk = hs'.ecdsaOk)
    (h₃ : hs.rsaDecryptOk = hs'.rsaDecryptOk) (h₄ : hs.rsaSignOk = hs'.rsaSignOk) :
    selectCipherSuite table hs config id version supported =
      selectCipherSuite table hs' config id version supported := by
  have h : suiteAcceptable hs config version = suiteAcceptable hs' config version := by
    funext candidate
    simp only [suiteAcceptable, h₁, h₂, h₃, h₄]
  rw [selectCipherSuite_eq, selectCipherSuite_eq, h]

@[simp] theorem selectCipherSuite_sessionState (table : List CipherSuite)
    (hs : ServerHandshakeState) (st : Option SessionState) (config : Config) (id version : Nat)
    (supported : List Nat) :
    selectCipherSuite table { hs with sessionState := st } config id version supported =
      selectCipherSuite table hs config id version supported :=
  selectCipherSuite_congr rfl rfl rfl rfl

theorem firstQualifying_congr {table : List CipherSuite} {hs hs' : ServerHandshakeState}
    {config : Config} {supported : List Nat} {version : Nat} {prefs : List Nat}
    (h₁ : hs.ellipticOk = hs'.ellipticOk) (h₂ : hs.ecdsaOk = hs'.ecdsaOk)
    (h₃ : hs.rsaDecryptOk = hs'.rsaDecryptOk) (h₄ : hs.rsaSignOk = hs'.rsaSignOk) :
    firstQualifying table hs config supported version prefs =
      firstQualifying table hs' config supported version prefs := by
  simp only [firstQualifying, selectCipherSuite_congr h₁ h₂ h₃ h₄]

theorem ticketSuite_congr {env : Env} {w w' : World} {ch : ClientHelloMsg} {st : SessionState}
    (hc : w.c = w'.c) (h₁ : w.hs.ellipticOk = w'.hs.ellipticOk) (h₂ : w.hs.ecdsaOk = w'.hs.ecdsaOk)
    (h₃ : w.hs.rsaDecryptOk = w'.hs.rsaDecryptOk) (h₄ : w.hs.rsaSignOk = w'.hs.rsaSignOk) :
    ticketSuite env w ch st = ticketSuite env w' ch st := by
  simp only [ticketSuite, hc, selectCipherSuite_congr h₁ h₂ h₃ h₄]

section

variable {env : Env} {w : World} {β : Type} {Q : β → World → Prop} {R : Stop → World → Prop}

theorem receiveClientHello_spec :
    wp (receiveClientHello env)
      (fun ch w' => ∃ rest, w.input = .ok (.handshake (.clientHello ch)) :: rest ∧
        w' = { w with input := rest, wire := w.wire ++ [.recv (.handshake (.clientHello ch))],
                      hs := { w.hs with clientHello := some ch } })
      (StopsCalm False w) w := by
  simp only [receiveClientHello, wp_bind, wp_readHandshake]
  split
  · simp
  · simp
  · simp
  · rename_i m rest h
    cases m <;> simp [h]

/-- The index of `suppVersArray[VersionTLS12-vers:]` is in range whenever the
guard `vers >= VersionSSL30` of line 966 holds. -/
theorem suppVersArray_slice_in_range {vers : Nat} (h : ¬vers > versionTLS12)
    (h' : vers ≥ versionSSL30) : versionTLS12 - vers ≤ suppVersArray.length := by
  simp only [versionTLS12, versionSSL30, suppVersArray, List.length_cons, List.length_nil] at *
  omega

theorem clientHelloInfo_spec {ch : ClientHelloMsg} (hch : w.hs.clientHello = some ch)
    (hc : w.hs.cachedClientHelloInfo = none ∨ w.hs.cachedClientHelloInfo = some ch.info) :
    wp clientHelloInfo
      (fun info w' => info = ch.info ∧
        w' = { w with hs := { w.hs with cachedClientHelloInfo := some ch.info } })
      (StopsCalm False w) w := by
  rcases hc with hc | hc
  · simp only [clientHelloInfo, getClientHello, wp_bind, wp_get, hc, hch, wp_deref]
    split
    · rename_i h
      simp [supportedVersionsOf, ClientHelloMsg.info, h, hch]
    · rename_i h
      split
      · rename_i h'
        simp [sliceFrom, suppVersArray_slice_in_range h h', supportedVersionsOf, h, h',
          ClientHelloMsg.info, hch]
      · rename_i h'
        simp [supportedVersionsOf, ClientHelloMsg.info, h, h', hch]
  · simp only [clientHelloInfo, wp_bind, wp_get, hc, wp_pure, true_and]
    rw [← hc]

theorem setCipherSuite_spec (id : Nat) (supported : List Nat) (version : Nat)
    {Q : Bool → World → Prop} :
    wp (setCipherSuite env id supported version) Q R w =
      match selectCipherSuite env.cipherSuites w.hs w.c.config id version supported with
      | some s => Q true { w with hs := { w.hs with suite := some s } }
      | none => Q false w := by
  simp only [setCipherSuite, wp_bind, wp_get]
  cases selectCipherSuite env.cipherSuites w.hs w.c.config id version supported <;> rfl

theorem negotiateLoop_spec (supported : List Nat) (version : Nat) (prefs : List Nat) :
    ∀ w : World, wp (negotiateLoop env supported version prefs)
      (fun _ w' => w' =
        match firstQualifying env.cipherSuites w.hs w.c.config supported version prefs with
        | some s => { w with hs := { w.hs with suite := some s } }
        | none => w) R w := by
  induction prefs with
  | nil => intro w; simp [negotiateLoop, firstQualifying]
  | cons id rest ih =>
    intro w
    simp only [negotiateLoop, wp_bind, setCipherSuite_spec, firstQualifying, List.findSome?_cons]
    split
    · simp_all
    · rename_i h
      simp only [Bool.false_eq_true, if_false, h]
      exact ih w

theorem applyConfigForClient_spec {ch : ClientHelloMsg} (hch : w.hs.clientHello = some ch)
    (hc : w.hs.cachedClientHelloInfo = none ∨ w.hs.cachedClientHelloInfo = some ch.info) :
    wp (applyConfigForClient env)
      (fun ok w' => (ok = false ∧ AlertIgnored env w w') ∨
        (ok = true ∧ ∃ cfg cached,
          w' = { w with c := { w.c with config := cfg },
                        hs := { w.hs with cachedClientHelloInfo := cached } } ∧
          ConfigForClient w.c.config ch.info cfg ∧ (cached = none ∨ cached = some ch.info)))
      (StopsCalm False w) w := by
  unfold applyConfigForClient
  simp only [wp_bind, wp_get]
  split
  · rename_i h
    exact Or.inr ⟨rfl, w.c.config, w.hs.cachedClientHelloInfo, rfl, Or.inl ⟨h, rfl⟩, hc⟩
  · rename_i hook h
    rw [wp_bind]
    refine wp_mono (clientHelloInfo_spec hch hc) ?_ fun _ _ => id
    rintro _ _ ⟨rfl, rfl⟩
    split
    · simp only [wp_bind, wp_checkAlert]
      split <;> simp_all [AlertIgnored]
    · rename_i hnone
      exact Or.inr ⟨rfl, w.c.config, some ch.info, rfl,
        Or.inr ⟨hook, h, Or.inl ⟨hnone, rfl⟩⟩, Or.inr rfl⟩
    · rename_i cfg hcfg
      simp only [wp_bind, wp_modifyConn, wp_pure]
      exact Or.inr ⟨trivial, cfg, some ch.info, rfl, Or.inr ⟨hook, h, Or.inr hcfg⟩, Or.inr rfl⟩

theorem negotiateVersion_spec (ch : ClientHelloMsg) :
    wp (negotiateVersion env ch)
      (fun _ w' => (w.c.config.mutualVersion ch.vers).2 = true ∧
        w' = { w with c := { w.c with vers := (w.c.config.mutualVersion ch.vers).1, haveVers := true },
                      hs := { w.hs with hello := some {} } })
      (StopsCalm False w) w := by
  simp only [negotiateVersion, wp_bind, wp_get, wp_modifyConn]
  cases h : (w.c.config.mutualVersion ch.vers).2 <;> simp [h]

theorem checkCurvesAndCompression_spec (ch : ClientHelloMsg) :
    wp (checkCurvesAndCompression env ch)
      (fun _ w' => ch.compressionMethods.contains compressionNone = true ∧
        w' = { w with hs := { w.hs with
          ellipticOk := (ch.supportedCurves.any fun curve =>
              w.c.config.curvePreferences.contains curve) &&
            ch.supportedPoints.contains pointFormatUncompressed } })
      (StopsCalm False w) w := by
  simp only [checkCurvesAndCompression, wp_bind, wp_get, wp_modifyHs]
  cases h : ch.compressionMethods.contains compressionNone <;> simp [h]

theorem readRandom_spec {hello : ServerHelloMsg} (hh : w.hs.hello = some hello) :
    wp (readRandom env)
      (fun ok w' => (ok = false ∧ AlertIgnored env w w') ∨
        (ok = true ∧ ∃ hello', w' = { w with hs := { w.hs with hello := some hello' } } ∧
          hello'.ocspStapling = hello.ocspStapling))
      (StopsCalm False w) w := by
  simp only [readRandom, wp_bind, wp_get, wp_modifyHello, hh]
  split
  · simp only [wp_bind, wp_checkAlert]
    split <;> simp_all [AlertIgnored]
  · simp

theorem negotiateExtensions_spec (ch : ClientHelloMsg) {hello : ServerHelloMsg}
    (hh : w.hs.hello = some hello) :
    wp (negotiateExtensions env ch)
      (fun _ w' => ch.secureRenegotiation = [] ∧ ∃ hello' serverName clientProtocol,
        w' = { w with c := { w.c with serverName, clientProtocol },
                      hs := { w.hs with hello := some hello' } } ∧
        hello'.ocspStapling = hello.ocspStapling)
      (StopsCalm False w) w := by
  by_cases hr : ch.secureRenegotiation = []
  · simp only [negotiateExtensions, hr, ne_eq, not_true_eq_false, if_false, wp_bind, wp_pure,
      wp_modifyHello, hh, wp_get, true_and, wp_ite, wp_modifyConn]
    split_ifs <;> exact ⟨_, _, _, rfl, rfl⟩
  · simp [negotiateExtensions, hr]

theorem checkPrivateKey_spec (key : PrivateKey) :
    wp (checkPrivateKey env key)
      (fun _ w' => key.Supported ∧
        w' = { w with hs := { w.hs with
          ecdsaOk := w.hs.ecdsaOk || key.signsECDSA,
          rsaSignOk := w.hs.rsaSignOk || key.signsRSA,
          rsaDecryptOk := w.hs.rsaDecryptOk || key.decryptsRSA } })
      (StopsCalm False w) w := by
  rcases key with ⟨_ | _, _ | _, _ | _ | _⟩ <;>
    simp [checkPrivateKey, PrivateKey.Supported, PrivateKey.signsECDSA, PrivateKey.signsRSA,
      PrivateKey.decryptsRSA, PublicKey.isECDSA, PublicKey.isRSA]

theorem loadCertificate_spec {ch : ClientHelloMsg} (hch : w.hs.clientHello = some ch)
    (hc : w.hs.cachedClientHelloInfo = none ∨ w.hs.cachedClientHelloInfo = some ch.info)
    {hello : ServerHelloMsg} (hh : w.hs.hello = some hello) :
    wp (loadCertificate env ch)
      (fun ok w' => (ok = false ∧ AlertIgnored env w w') ∨
        (ok = true ∧ (w.c.config.getCertificate ch.info).2 = none ∧
          (∀ cert, (w.c.config.getCertificate ch.info).1 = some cert → cert.privateKey.Supported) ∧
          ∃ hello', w' = { w with hs := { w.hs with
            cert := (w.c.config.getCertificate ch.info).1,
            cachedClientHelloInfo := some ch.info,
            hello := some hello',
            ecdsaOk := w.hs.ecdsaOk ||
              (w.c.config.getCertificate ch.info).1.any (·.privateKey.signsECDSA),
            rsaSignOk := w.hs.rsaSignOk ||
              (w.c.config.getCertificate ch.info).1.any (·.privateKey.signsRSA),
            rsaDecryptOk := w.hs.rsaDecryptOk ||
              (w.c.config.getCertificate ch.info).1.any (·.privateKey.decryptsRSA) } } ∧
          hello'.ocspStapling = hello.ocspStapling))
      (StopsCalm False w) w := by
  unfold loadCertificate
  refine wp_bind_of (clientHelloInfo_spec hch hc) ?_
  rintro _ _ ⟨rfl, rfl⟩
  simp only [wp_bind, wp_get, wp_modifyHs]
  split
  · simp only [wp_bind, wp_checkAlert]
    split <;> simp_all [AlertIgnored]
  · rename_i hget
    rcases hcert : (w.c.config.getCertificate ch.info).1 with _ | cert
    · simp_all
    · by_cases hs : ch.scts <;> simp only [hcert, hs, hh, if_true, if_false, wp_bind,
        wp_modifyHello, wp_pure, Bool.false_eq_true] <;>
        refine wp_mono (checkPrivateKey_spec cert.privateKey) ?_ fun _ _ => id <;>
        rintro _ _ ⟨hsup, rfl⟩ <;> simp_all

/-- The suite negotiation installs the first qualifying suite, and stops
exactly when there is none. -/
theorem negotiateCipherSuite_spec (ch : ClientHelloMsg) (hs0 : w.hs.suite = none) :
    wp (negotiateCipherSuite env ch)
      (fun _ w' => ∃ s, w' = { w with hs := { w.hs with suite := some s } } ∧
        firstQualifying env.cipherSuites w.hs w.c.config (preferenceLists w.c.config ch).2 w.c.vers
          (preferenceLists w.c.config ch).1 = some s)
      (fun e w' =>
        firstQualifying env.cipherSuites w.hs w.c.config (preferenceLists w.c.config ch).2 w.c.vers
          (preferenceLists w.c.config ch).1 = none ∧
        e = .error ((env.sendAlert w.wire .handshakeFailure).getD .noCipherSuite) ∧
        w' = { w with wire := w.wire ++ [.alert .handshakeFailure] }) w := by
  have hpl : (if w.c.config.preferServerCipherSuites then (w.c.config.cipherSuites, ch.cipherSuites)
      else (ch.cipherSuites, w.c.config.cipherSuites)) = preferenceLists w.c.config ch := rfl
  simp only [negotiateCipherSuite, wp_bind, wp_get, hpl]
  refine wp_mono (negotiateLoop_spec _ _ _ w) ?_ fun _ _ => id
  rintro _ _ rfl
  cases firstQualifying env.cipherSuites w.hs w.c.config (preferenceLists w.c.config ch).2 w.c.vers
    (preferenceLists w.c.config ch).1 <;> simp [hs0]

theorem checkFallback_spec (ch : ClientHelloMsg) :
    wp (checkFallback env ch)
      (fun _ w' => (ch.cipherSuites.contains tlsFallbackSCSV &&
        decide (ch.vers < w.c.config.maxVersion)) = false ∧ w' = w)
      (StopsCalm False w) w := by
  simp only [checkFallback, wp_bind, wp_get]
  cases h : (ch.cipherSuites.contains tlsFallbackSCSV && decide (ch.vers < w.c.config.maxVersion)) <;>
    simp [h]

/-- `checkForResumption` never stops; it returns by one of three cases. -/
theorem checkForResumption_spec (ch : ClientHelloMsg) :
    wp (checkForResumption env ch)
      (fun ok w' =>
        (ok = false ∧ w.c.config.sessionTicketsDisabled = true ∧ w' = w) ∨
        (ok = false ∧ w.c.config.sessionTicketsDisabled = false ∧
          w' = { w with hs := { w.hs with
            sessionState := w.c.config.decryptTicket ch.sessionTicket } } ∧
          ∀ st, w.c.config.decryptTicket ch.sessionTicket = some st → ticketSuite env w ch st = none) ∨
        (∃ st s, w' = { w with hs := { w.hs with sessionState := some st, suite := some s } } ∧
          w.c.config.sessionTicketsDisabled = false ∧
          w.c.config.decryptTicket ch.sessionTicket = some st ∧ ticketSuite env w ch st = some s ∧
          ok = clientCertsAllowResumption w.c.config.clientAuth st.certificates))
      (fun _ _ => False) w := by
  simp only [checkForResumption, wp_bind, wp_get]
  cases hd : w.c.config.sessionTicketsDisabled
  · simp only [Bool.false_eq_true, if_false, wp_modifyHs]
    rcases hst : w.c.config.decryptTicket ch.sessionTicket with _ | st
    · simp [hd]
    · simp only [ticketSuite]
      by_cases hv : w.c.vers = st.vers
      · by_cases hcs : ch.cipherSuites.contains st.cipherSuite
        · cases hsel : selectCipherSuite env.cipherSuites w.hs w.c.config st.cipherSuite st.vers
            w.c.config.cipherSuites <;> simp_all [setCipherSuite_spec, and_assoc]
        · simp_all
      · simp_all
  · simp

end

/-! ## The whole of `readClientHello` -/

/-- What a run of `readClientHello` to its last line leaves, from a fresh
world: the ClientHello it read, the configuration in force, and what it fixed
from them. -/
structure HelloDone (config : Config) (input : List (Except TlsError Record))
    (ch : ClientHelloMsg) (w : World) : Prop where
  input_eq : input = .ok (.handshake (.clientHello ch)) :: w.input
  wire_eq : w.wire = [.recv (.handshake (.clientHello ch))]
  hashCalls_eq : w.hashCalls = []
  clientHello_eq : w.hs.clientHello = some ch
  configForClient : ConfigForClient config ch.info w.c.config
  mutualVersion_eq : w.c.config.mutualVersion ch.vers = (w.c.vers, true)
  compression : ch.compressionMethods.contains compressionNone = true
  renegotiation : ch.secureRenegotiation = []
  noFallback :
    (ch.cipherSuites.contains tlsFallbackSCSV && decide (ch.vers < w.c.config.maxVersion)) = false
  hello : ∃ hello, w.hs.hello = some hello ∧ hello.ocspStapling = false
  cert_eq : w.hs.cert = (w.c.config.getCertificate ch.info).1
  getCertificate_ok : (w.c.config.getCertificate ch.info).2 = none
  keySupported : ∀ cert, w.hs.cert = some cert → cert.privateKey.Supported
  ellipticOk_eq : w.hs.ellipticOk =
    ((ch.supportedCurves.any fun curve => w.c.config.curvePreferences.contains curve) &&
      ch.supportedPoints.contains pointFormatUncompressed)
  ecdsaOk_eq : w.hs.ecdsaOk = w.hs.cert.any (·.privateKey.signsECDSA)
  rsaSignOk_eq : w.hs.rsaSignOk = w.hs.cert.any (·.privateKey.signsRSA)
  rsaDecryptOk_eq : w.hs.rsaDecryptOk = w.hs.cert.any (·.privateKey.decryptsRSA)
  suite_some : ∃ s, w.hs.suite = some s
  peerCertificates_eq : w.c.peerCertificates = []
  verifiedChains_eq : w.c.verifiedChains = []
  certsFromClient_eq : w.hs.certsFromClient = []
  didResume_eq : w.c.didResume = false

/-- The resumption decision `readClientHello` returns, and the suite it leaves:
the ticket's suite when it resumes; otherwise the negotiated suite, or the
ticket's suite when `checkForResumption` installed it and then refused the
ticket for its client certificates. -/
def ResumeDecision (env : Env) (ch : ClientHelloMsg) (w : World) : Bool → Prop
  | true => ∃ st s, w.hs.sessionState = some st ∧ w.hs.suite = some s ∧
      w.c.config.sessionTicketsDisabled = false ∧
      w.c.config.decryptTicket ch.sessionTicket = some st ∧ ticketSuite env w ch st = some s ∧
      clientCertsAllowResumption w.c.config.clientAuth st.certificates = true
  | false =>
      (w.hs.suite = firstQualifying env.cipherSuites w.hs w.c.config
          (preferenceLists w.c.config ch).2 w.c.vers (preferenceLists w.c.config ch).1 ∧
        (w.c.config.sessionTicketsDisabled = true ∨
          ∀ st, w.c.config.decryptTicket ch.sessionTicket = some st → ticketSuite env w ch st = none)) ∨
      (∃ st s, w.hs.sessionState = some st ∧ w.hs.suite = some s ∧
        w.c.config.sessionTicketsDisabled = false ∧
        w.c.config.decryptTicket ch.sessionTicket = some st ∧ ticketSuite env w ch st = some s ∧
        clientCertsAllowResumption w.c.config.clientAuth st.certificates = false)

section

variable {env : Env} {config : Config} {input : List (Except TlsError Record)} {ch : ClientHelloMsg}

/-- `checkForResumption` touches only the session state and the suite. -/
theorem HelloDone.resumption {w : World} (hd : HelloDone config input ch w)
    (x : Option SessionState) (y : Option CipherSuite) (hy : y.isSome) :
    HelloDone config input ch { w with hs := { w.hs with sessionState := x, suite := y } } := by
  cases hd
  constructor <;> first | assumption | exact Option.isSome_iff_exists.mp hy

/-- From `HelloDone` with the negotiated suite, `checkForResumption` keeps
`HelloDone` and makes the decision `ResumeDecision` describes. -/
theorem checkForResumption_decides {w : World} (hd : HelloDone config input ch w)
    (hfirst : w.hs.suite = firstQualifying env.cipherSuites w.hs w.c.config
      (preferenceLists w.c.config ch).2 w.c.vers (preferenceLists w.c.config ch).1) :
    wp (checkForResumption env ch)
      (fun ok w' => HelloDone config input ch w' ∧ ResumeDecision env ch w' ok)
      (fun _ _ => False) w := by
  refine wp_mono (checkForResumption_spec ch) ?_ fun _ _ => id
  have hsome := hd.suite_some
  rintro ok _ (⟨rfl, hdis, rfl⟩ | ⟨rfl, hdis, rfl, hnone⟩ | ⟨st, s, rfl, hdis, hdec, hts, rfl⟩)
  · exact ⟨hd, Or.inl ⟨hfirst, Or.inl hdis⟩⟩
  · obtain ⟨s, hs⟩ := hsome
    refine ⟨hd.resumption _ _ (by simp [hs]), Or.inl ⟨?_, Or.inr fun st h => ?_⟩⟩
    · exact hfirst.trans (firstQualifying_congr rfl rfl rfl rfl)
    · rw [← hnone st h]
      exact ticketSuite_congr rfl rfl rfl rfl rfl
  · refine ⟨hd.resumption _ _ rfl, ?_⟩
    have hts' : ticketSuite env { w with hs := { w.hs with sessionState := some st, suite := some s } }
        ch st = some s := by
      rw [← hts]
      exact ticketSuite_congr rfl rfl rfl rfl rfl
    cases h : clientCertsAllowResumption w.c.config.clientAuth st.certificates
    · exact Or.inr ⟨st, s, rfl, rfl, hdis, hdec, hts', h⟩
    · exact ⟨st, s, rfl, rfl, hdis, hdec, hts', h⟩

/-- **`readClientHello`**, from a fresh world: it stops calmly, returns early
only after a nil `sendAlert`, or runs to its end with `HelloDone` and the
resumption decision. -/
theorem readClientHello_spec (config : Config) (input : List (Except TlsError Record)) :
    wp (readClientHello env)
      (fun isResume w => (∃ ch, HelloDone config input ch w ∧ ResumeDecision env ch w isResume) ∨
        (isResume = false ∧ EarlyExit env w))
      (StopsCalm False (World.init config input)) (World.init config input) := by
  unfold readClientHello
  refine wp_bind_calm receiveClientHello_spec rfl ?_
  rintro ch _ ⟨rest, hin, rfl⟩
  refine wp_bind_calm (applyConfigForClient_spec rfl (Or.inl rfl)) rfl ?_
  rintro _ _ (⟨rfl, hal⟩ | ⟨rfl, cfg, cached, rfl, hcfg, hcached⟩)
  · exact Or.inr ⟨rfl, hal.earlyExit rfl rfl rfl⟩
  simp only [Bool.not_true, Bool.false_eq_true, if_false, pure_bind]
  refine wp_bind_calm (negotiateVersion_spec ch) rfl ?_
  rintro _ _ ⟨hv, rfl⟩
  refine wp_bind_calm (checkCurvesAndCompression_spec ch) rfl ?_
  rintro _ _ ⟨hcomp, rfl⟩
  refine wp_bind_calm (readRandom_spec rfl) rfl ?_
  rintro _ _ (⟨rfl, hal⟩ | ⟨rfl, hello₁, rfl, hocsp₁⟩)
  · exact Or.inr ⟨rfl, hal.earlyExit rfl rfl rfl⟩
  simp only [Bool.not_true, Bool.false_eq_true, if_false, pure_bind]
  refine wp_bind_calm (negotiateExtensions_spec ch rfl) rfl ?_
  rintro _ _ ⟨hren, hello₂, serverName, clientProtocol, rfl, hocsp₂⟩
  refine wp_bind_calm (loadCertificate_spec rfl hcached rfl) rfl ?_
  rintro _ _ (⟨rfl, hal⟩ | ⟨rfl, hget, hkey, hello₃, rfl, hocsp₃⟩)
  · exact Or.inr ⟨rfl, hal.earlyExit rfl rfl rfl⟩
  simp only [Bool.not_true, Bool.false_eq_true, if_false, pure_bind]
  refine wp_bind_of (wp_mono (negotiateCipherSuite_spec ch rfl) (fun _ _ => id)
    fun _ _ ⟨_, he, hw⟩ => by subst he hw; exact ⟨rfl, by simp⟩) ?_
  rintro _ _ ⟨s, rfl, hs⟩
  refine wp_bind_calm (checkFallback_spec ch) rfl ?_
  rintro _ _ ⟨hfb, rfl⟩
  refine wp_mono (checkForResumption_decides ?_ ?_) (fun _ _ h => Or.inl ⟨ch, h⟩) fun _ _ h => h.elim
  · constructor <;> simp_all [World.init]
    exact Prod.ext rfl hv
  · exact hs.symm.trans (firstQualifying_congr rfl rfl rfl rfl)

end

end Gnetcli.Tls
