import Mathlib.Logic.Basic

/-!
# Data model of the vendored TLS server handshake

`internal/tls_hack/handshake_server.go` is a pre-TLS-1.3 copy of the standard
library's server handshake, kept for interop with old devices. This module
gives the data it reads and writes: protocol constants, the handshake messages,
the server's certificate, the configuration, session tickets and x509 results.

Everything the file calls but does not define (the record layer, the PRF, the
key agreements, x509, ticket encryption, the `Config` methods of `common.go`) is
a *parameter*: a field of `Config` (methods whose result depends on the
configuration), of `CipherSuite` (its key agreement) or of `Env`
(`Tls/World.lean`). Theorems quantify over all of them, so they hold for every
behaviour of every callee.

Byte strings are `List UInt8`. Versions and cipher-suite ids are `uint16` in the
source; they are `Nat` here, which only adds inputs: no operation of the file
overflows under the guards it runs behind.
-/

namespace Gnetcli.Tls

/-- `[]byte`. -/
abbrev Bytes := List UInt8

/-! ## Protocol constants -/

def versionSSL30 : Nat := 0x0300
def versionTLS10 : Nat := 0x0301
def versionTLS11 : Nat := 0x0302
def versionTLS12 : Nat := 0x0303

/-- RFC 7507's signalling cipher suite value. -/
def tlsFallbackSCSV : Nat := 0x5600

def compressionNone : Nat := 0
def pointFormatUncompressed : Nat := 0
def statusTypeOCSP : Nat := 1
def certTypeRSASign : Nat := 1
def certTypeECDSASign : Nat := 64
def signatureRSA : Nat := 1
def signatureECDSA : Nat := 3
def extKeyUsageClientAuth : Nat := 2

/-- `suppVersArray`, the backing array of `ClientHelloInfo.SupportedVersions`
(handshake_server.go:956). -/
def suppVersArray : List Nat := [versionTLS12, versionTLS11, versionTLS10, versionSSL30]

/-- `ClientAuthType`, in the order of its `iota` values. -/
inductive ClientAuthType
  | noClientCert
  | requestClientCert
  | requireAnyClientCert
  | verifyClientCertIfGiven
  | requireAndVerifyClientCert
  deriving DecidableEq, Repr

/-- The `iota` value; the source compares policies with `>=`. -/
def ClientAuthType.toNat : ClientAuthType → Nat
  | .noClientCert => 0
  | .requestClientCert => 1
  | .requireAnyClientCert => 2
  | .verifyClientCertIfGiven => 3
  | .requireAndVerifyClientCert => 4

/-- The fatal alerts the file sends. -/
inductive Alert
  | unexpectedMessage
  | handshakeFailure
  | badCertificate
  | unsupportedCertificate
  | protocolVersion
  | internalError
  | inappropriateFallback
  deriving DecidableEq, Repr

/-- The kinds of handshake message; `%T` of `unexpectedMessageError`. -/
inductive MsgKind
  | clientHello
  | serverHello
  | certificate
  | certificateStatus
  | serverKeyExchange
  | certificateRequest
  | serverHelloDone
  | clientKeyExchange
  | certificateVerify
  | nextProtocol
  | finished
  | newSessionTicket
  deriving DecidableEq, Repr

/-- The Go type a message of this kind is parsed into. -/
def MsgKind.goType : MsgKind → String
  | .clientHello => "*tlshack.clientHelloMsg"
  | .serverHello => "*tlshack.serverHelloMsg"
  | .certificate => "*tlshack.certificateMsg"
  | .certificateStatus => "*tlshack.certificateStatusMsg"
  | .serverKeyExchange => "*tlshack.serverKeyExchangeMsg"
  | .certificateRequest => "*tlshack.certificateRequestMsg"
  | .serverHelloDone => "*tlshack.serverHelloDoneMsg"
  | .clientKeyExchange => "*tlshack.clientKeyExchangeMsg"
  | .certificateVerify => "*tlshack.certificateVerifyMsg"
  | .nextProtocol => "*tlshack.nextProtoMsg"
  | .finished => "*tlshack.finishedMsg"
  | .newSessionTicket => "*tlshack.newSessionTicketMsg"

/-- A public key, by its dynamic Go type; the payload names the key. A key of
another type carries the name `%T` prints for it. -/
inductive PublicKey
  | ecdsa (key : Nat)
  | rsa (key : Nat)
  | other (goType : String) (key : Nat)
  deriving DecidableEq, Repr

/-- What `%T` prints for the key. -/
def PublicKey.goType : PublicKey → String
  | .ecdsa _ => "*ecdsa.PublicKey"
  | .rsa _ => "*rsa.PublicKey"
  | .other goType _ => goType

/-- The errors of the file, one constructor per error site, plus the errors
its callees return (`external`, and the record layer's `unexpectedRecord` and
`eof`). The sites that print a key's type with `%T` carry the key. -/
inductive TlsError
  | external (code : Nat)
  | unexpectedRecord
  | eof
  | unexpectedMessage (wanted got : MsgKind)
  | unsupportedVersion (vers : Nat)
  | noUncompressed
  | nonEmptyRenegotiation
  | unsupportedSigningKey (key : PublicKey)
  | unsupportedDecryptionKey (key : PublicKey)
  | noCipherSuite
  | inappropriateFallback
  | noClientCertificate
  | unsupportedHash
  | badSignatureTypeECDSA
  | ecdsaZeroOrNegative
  | ecdsaVerification
  | badSignatureTypeRSA
  | badSignature (cause : TlsError)
  | badFinished
  | parseCertificate (cause : TlsError)
  | verifyCertificate (cause : TlsError)
  | unsupportedPublicKey (key : PublicKey)
  deriving DecidableEq, Repr

/-- `err.Error()` for the errors this file builds. -/
def TlsError.text : TlsError → String
  | .external _ => "external error"
  | .unexpectedRecord => "tls: unexpected record"
  | .eof => "EOF"
  | .unexpectedMessage wanted got =>
    "tls: received unexpected handshake message of type " ++ got.goType ++
      " when waiting for " ++ wanted.goType
  | .unsupportedVersion v =>
    "tls: client offered an unsupported, maximum protocol version of " ++
      String.mk (Nat.toDigits 16 v)
  | .noUncompressed => "tls: client does not support uncompressed connections"
  | .nonEmptyRenegotiation => "tls: initial handshake had non-empty renegotiation extension"
  | .unsupportedSigningKey key => "tls: unsupported signing key type (" ++ key.goType ++ ")"
  | .unsupportedDecryptionKey key => "tls: unsupported decryption key type (" ++ key.goType ++ ")"
  | .noCipherSuite => "tls: no cipher suite supported by both client and server"
  | .inappropriateFallback => "tls: client using inappropriate protocol fallback"
  | .noClientCertificate => "tls: client didn't provide a certificate"
  | .unsupportedHash => "tls: unsupported hash function for client certificate"
  | .badSignatureTypeECDSA => "tls: bad signature type for client's ECDSA certificate"
  | .ecdsaZeroOrNegative => "tls: ECDSA signature contained zero or negative values"
  | .ecdsaVerification => "tls: ECDSA verification failure"
  | .badSignatureTypeRSA => "tls: bad signature type for client's RSA certificate"
  | .badSignature e => "tls: could not validate signature of connection nonces: " ++ e.text
  | .badFinished => "tls: client's Finished message is incorrect"
  | .parseCertificate e => "tls: failed to parse client certificate: " ++ e.text
  | .verifyCertificate e => "tls: failed to verify client's certificate: " ++ e.text
  | .unsupportedPublicKey key =>
    "tls: client's certificate contains an unsupported public key of type " ++ key.goType

/-! ## Keys and certificates -/

/-- `Certificate.PrivateKey`: which of `crypto.Signer` and `crypto.Decrypter`
it implements, and its `Public()`. -/
structure PrivateKey where
  signer : Bool
  decrypter : Bool
  publicKey : PublicKey
  deriving DecidableEq, Repr

/-- The server's `tls.Certificate`. -/
structure Certificate where
  certificate : List Bytes
  privateKey : PrivateKey
  ocspStaple : Bytes
  signedCertificateTimestamps : List Bytes
  deriving DecidableEq, Repr

/-- A parsed `x509.Certificate`: its DER encoding and its public key. -/
structure X509Certificate where
  raw : Bytes
  publicKey : PublicKey
  deriving DecidableEq, Repr

/-- `x509.CertPool`, by the subjects `Subjects()` returns. -/
structure CertPool where
  subjects : List Bytes
  deriving DecidableEq, Repr

/-- `x509.VerifyOptions` as `processCertsFromClient` fills it. -/
structure VerifyOptions where
  roots : Option CertPool
  currentTime : Nat
  intermediates : List X509Certificate
  keyUsages : List Nat
  deriving DecidableEq, Repr

structure SignatureAndHash where
  hash : Nat
  signature : Nat
  deriving DecidableEq, Repr

/-- `ecdsaSignature`, the ASN.1 body of an ECDSA signature. -/
structure EcdsaSignature where
  r : Int
  s : Int
  deriving DecidableEq, Repr

/-! ## Handshake messages -/

structure ClientHelloMsg where
  vers : Nat
  random : Bytes
  sessionID : Bytes
  cipherSuites : List Nat
  compressionMethods : List Nat
  nextProtoNeg : Bool
  serverName : String
  ocspStapling : Bool
  scts : Bool
  supportedCurves : List Nat
  supportedPoints : List Nat
  ticketSupported : Bool
  sessionTicket : Bytes
  signatureAndHashes : List SignatureAndHash
  secureRenegotiation : Bytes
  secureRenegotiationSupported : Bool
  alpnProtocols : List String
  deriving DecidableEq, Repr

/-- `serverHelloMsg`; the defaults are `new(serverHelloMsg)`. -/
structure ServerHelloMsg where
  vers : Nat := 0
  random : Bytes := []
  sessionID : Bytes := []
  cipherSuite : Nat := 0
  compressionMethod : Nat := 0
  nextProtoNeg : Bool := false
  nextProtos : List String := []
  ocspStapling : Bool := false
  scts : List Bytes := []
  ticketSupported : Bool := false
  secureRenegotiationSupported : Bool := false
  alpnProtocol : String := ""
  deriving DecidableEq, Repr

structure CertificateRequestMsg where
  certificateTypes : List Nat
  hasSignatureAndHash : Bool
  signatureAndHashes : List SignatureAndHash
  certificateAuthorities : List Bytes
  deriving DecidableEq, Repr

structure CertificateVerifyMsg where
  hasSignatureAndHash : Bool
  signatureAndHash : SignatureAndHash
  signature : Bytes
  deriving DecidableEq, Repr

/-- A handshake message, as `readHandshake` parses it and as the server
marshals it; `finishedHash` absorbs these values. -/
inductive HandshakeMsg
  | clientHello (m : ClientHelloMsg)
  | serverHello (m : ServerHelloMsg)
  | certificate (certificates : List Bytes)
  | certificateStatus (statusType : Nat) (response : Bytes)
  | serverKeyExchange (key : Bytes)
  | certificateRequest (m : CertificateRequestMsg)
  | serverHelloDone
  | clientKeyExchange (ciphertext : Bytes)
  | certificateVerify (m : CertificateVerifyMsg)
  | nextProtocol (proto : String)
  | finished (verifyData : Bytes)
  | newSessionTicket (ticket : Bytes)
  deriving DecidableEq, Repr

def HandshakeMsg.kind : HandshakeMsg → MsgKind
  | .clientHello _ => .clientHello
  | .serverHello _ => .serverHello
  | .certificate _ => .certificate
  | .certificateStatus _ _ => .certificateStatus
  | .serverKeyExchange _ => .serverKeyExchange
  | .certificateRequest _ => .certificateRequest
  | .serverHelloDone => .serverHelloDone
  | .clientKeyExchange _ => .clientKeyExchange
  | .certificateVerify _ => .certificateVerify
  | .nextProtocol _ => .nextProtocol
  | .finished _ => .finished
  | .newSessionTicket _ => .newSessionTicket

/-- `ClientHelloInfo`, as `clientHelloInfo` fills it. -/
structure ClientHelloInfo where
  cipherSuites : List Nat
  serverName : String
  supportedCurves : List Nat
  supportedPoints : List Nat
  signatureSchemes : List Nat
  supportedProtos : List String
  supportedVersions : List Nat
  deriving DecidableEq, Repr

/-- `sessionState`, the plaintext of a session ticket. `usedOldKey` is set by
`decryptTicket` and is not encoded. -/
structure SessionState where
  vers : Nat
  cipherSuite : Nat
  masterSecret : Bytes
  certificates : List Bytes
  usedOldKey : Bool
  deriving DecidableEq, Repr

/-! ## Configuration, key agreements and the cipher-suite table -/

/-- What `io.ReadFull` leaves in a 32-byte buffer it reads into: the buffer,
filled as far as the reader got, and the error, if it stopped short. -/
structure RandomRead where
  buffer : Bytes
  length_eq : buffer.length = 32
  err : Option TlsError

/-- `tls.Config`: the fields the handshake reads, and the results of the
`common.go`/`ticket.go` methods it calls on the configuration. -/
structure Config where
  getConfigForClient : Option (ClientHelloInfo → Except TlsError (Option Config))
  preferServerCipherSuites : Bool
  sessionTicketsDisabled : Bool
  clientAuth : ClientAuthType
  clientCAs : Option CertPool
  /-- `DhParameters != nil`. -/
  dhParameters : Bool
  nextProtos : List String
  verifyPeerCertificate : Option (List Bytes → List (List X509Certificate) → Option TlsError)
  mutualVersion : Nat → Nat × Bool
  maxVersion : Nat
  curvePreferences : List Nat
  cipherSuites : List Nat
  /-- `io.ReadFull(config.rand(), hs.hello.random)` on a fresh 32-byte buffer. -/
  rand : RandomRead
  getCertificate : ClientHelloInfo → Option Certificate × Option TlsError
  writeKeyLog : Bytes → Bytes → Option TlsError
  time : Nat
  encryptTicket : SessionState → Except TlsError Bytes
  decryptTicket : Bytes → Option SessionState

/-- `keyAgreement`: the two methods of a suite's key exchange. -/
structure KeyAgreement where
  generateServerKeyExchange :
    Config → Option Certificate → ClientHelloMsg → ServerHelloMsg → Except TlsError (Option Bytes)
  processClientKeyExchange : Config → Option Certificate → Bytes → Nat → Except TlsError Bytes

/-- The `suite*` bits of `cipherSuite.flags` that the file tests. -/
structure SuiteFlags where
  ecdhe : Bool
  ecdsa : Bool
  tls12 : Bool
  rsa : Bool
  dhe : Bool
  noCerts : Bool
  deriving DecidableEq, Repr

/-- An entry of the `cipherSuites` table. `aead` says whether the entry has an
AEAD constructor (`suite.aead != nil`). -/
structure CipherSuite where
  id : Nat
  keyLen : Nat
  macLen : Nat
  ivLen : Nat
  ka : Nat → KeyAgreement
  flags : SuiteFlags
  aead : Bool

end Gnetcli.Tls
