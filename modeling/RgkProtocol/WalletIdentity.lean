import RgkProtocol.ReceiptCommitment
import RgkProtocol.WalletScan
import Mathlib.Data.List.GetD

/-!
# The identity vault of the wallet daemon

The recovery phrase of a wallet is kept encrypted: a key is derived from the passphrase and a salt,
and the phrase is sealed together with the wallet's id and network. Opening the vault gives the
identity back, a fingerprint and a secret, from which the funding address is derived. A vault that
was sealed opens, with its passphrase, to the identity that was sealed in it. Nothing is assumed
about what another passphrase finds: the cipher does not commit to its key.
-/
namespace RgkProtocol.WalletIdentity
open ByteStrings Hashing CoreTypes Checked Resolver WalletScan ReceiptCommitment

section Networks

inductive CliNetwork where
  | mainnet
  | testnet10
  | testnet12
  | devnet
  | simnet
  | localToccata
  deriving DecidableEq

inductive KaspaAddressPrefix where
  | mainnet
  | testnet
  | devnet
  | simnet
  deriving DecidableEq

namespace CliNetwork

def networkId : CliNetwork → String
  | mainnet => "rgk:kaspa-mainnet"
  | testnet10 => "rgk:testnet-10"
  | testnet12 => "rgk:testnet-12"
  | devnet => "rgk:kaspa-devnet"
  | simnet => "rgk:kaspa-simnet"
  | localToccata => "rgk:kaspa-local-toccata"

def protocolNetworkId : CliNetwork → String
  | mainnet => "kaspa-mainnet"
  | testnet10 => "testnet-10"
  | testnet12 => "testnet-12"
  | devnet => "kaspa-devnet"
  | simnet => "kaspa-simnet"
  | localToccata => "kaspa-local-toccata"

def chainId : CliNetwork → KaspaChainId
  | mainnet => .kaspaMainnet
  | testnet10 | testnet12 => .kaspaTestnet
  | devnet => .kaspaDevnet
  | simnet => .kaspaSimnet
  | localToccata => .kaspaLocalToccata

def addressPrefix : CliNetwork → KaspaAddressPrefix
  | mainnet => .mainnet
  | testnet10 | testnet12 => .testnet
  | devnet => .devnet
  | simnet | localToccata => .simnet

/-- The chain domain of the network, as it is written into profiles and vaults. -/
def chainDomain (network : CliNetwork) : String := KaspaChainId.asDomainStr network.chainId

end CliNetwork
end Networks

section Errors

inductive WalletdError where
  | notFound
  | locked
  | unauthorized
  | badRequest (message : String)
  | persist (message : String)
  | crypto (message : String)
  | entropy (message : String)
  deriving DecidableEq

def WalletdError.message : WalletdError → String
  | notFound => "wallet profile has not been created"
  | locked => "wallet is locked"
  | unauthorized => "passphrase was not accepted"
  | badRequest message => message
  | persist message => "state persistence failed: " ++ message
  | crypto message => "identity vault operation failed: " ++ message
  | entropy message => "failed to read local entropy: " ++ message

structure ApiError where
  status : ℕ
  code : String
  message : String
  deriving DecidableEq

def apiError (error : WalletdError) : ApiError :=
  match error with
  | .notFound => ⟨404, "wallet_not_found", error.message⟩
  | .locked => ⟨401, "wallet_locked", error.message⟩
  | .unauthorized => ⟨401, "unauthorized", error.message⟩
  | .badRequest _ => ⟨400, "bad_request", error.message⟩
  | .persist _ => ⟨500, "persist_failed", error.message⟩
  | .crypto _ => ⟨500, "crypto_failed", error.message⟩
  | .entropy _ => ⟨500, "entropy_failed", error.message⟩

end Errors

section Records

inductive IdentityVaultStatus where
  | missing
  | encrypted
  | unlocked
  deriving DecidableEq

inductive WalletLifecycle where
  | notCreated
  | locked
  | ready
  | syncing
  | serviceRequired
  deriving DecidableEq

structure WalletProfile where
  walletId : String
  protocol : String
  networkId : String
  protocolNetworkId : String
  canonicalChainDomain : String
  kaspaEndpoint : String
  walletSetId : Option String
  address : Option String
  identityVaultStatus : IdentityVaultStatus
  identityFingerprint : Option String
  lifecycle : WalletLifecycle
  deriving DecidableEq

structure IdentityVaultKdf where
  algorithm : String
  memoryKib : UInt32
  iterations : UInt32
  parallelism : UInt32
  deriving DecidableEq

/-- The vault as it is stored; salt, nonce and ciphertext are hexadecimal texts. -/
structure IdentityVault where
  version : UInt16
  cipher : String
  kdf : IdentityVaultKdf
  salt : String
  nonce : String
  ciphertext : String
  deriving DecidableEq

structure IdentityVaultContext where
  walletId : String
  networkId : String
  protocolNetworkId : String
  canonicalChainDomain : String
  deriving DecidableEq

structure IdentityVaultPlaintext where
  version : UInt16
  walletId : String
  networkId : String
  protocolNetworkId : String
  canonicalChainDomain : String
  recoveryPhrase : List String
  deriving DecidableEq

structure UnlockedIdentity where
  identityFingerprint : String
  identitySecret : List UInt8
  deriving DecidableEq

def IdentityVaultContext.fromProfile (profile : WalletProfile) : IdentityVaultContext :=
  ⟨profile.walletId, profile.networkId, profile.protocolNetworkId, profile.canonicalChainDomain⟩

def identityVaultVersion : UInt16 := 1
def identityVaultCipher : String := "xchacha20poly1305"
def identityVaultSaltBytes : ℕ := 16
def identityVaultNonceBytes : ℕ := 24

def identityVaultKdf : IdentityVaultKdf := ⟨"argon2id", 19*1024, 2, 1⟩

end Records

section Primitives

/-- The functions of the crates that the vault is built on. -/
structure Primitives where
  sha256 : List UInt8 → Bytes32
  argon2id : IdentityVaultKdf → List UInt8 → List UInt8 → Except String Bytes32
  /-- Key, nonce, associated data and message of the authenticated cipher. -/
  encrypt : Bytes32 → List UInt8 → List UInt8 → List UInt8 → Option (List UInt8)
  decrypt : Bytes32 → List UInt8 → List UInt8 → List UInt8 → Option (List UInt8)
  encodePlaintext : IdentityVaultPlaintext → Except String (List UInt8)
  decodePlaintext : List UInt8 → Except String IdentityVaultPlaintext
  hexDecode : String → Except String (List UInt8)
  /-- The x-only public key of a secret key, where the bytes are one. -/
  xOnlyPublicKey : Bytes32 → Option Bytes32
  addressText : KaspaAddressPrefix → Bytes32 → String
  parseMnemonic : String → Bool

/-- What the random source gives to one request. -/
structure Entropy where
  passphraseSalt : Except String (Bytes identityVaultSaltBytes)
  salt : Except String (Bytes identityVaultSaltBytes)
  nonce : Except String (Bytes identityVaultNonceBytes)

def hexEncode (bytes : List UInt8) : String :=
  String.ofList (bytes.flatMap (fun x => [hexDigit (x.toNat/16), hexDigit (x.toNat % 16)]))

/-- Decoding inverts encoding. -/
def Primitives.HexLawful (p : Primitives) : Prop :=
  ∀ bytes, p.hexDecode (hexEncode bytes) = .ok bytes

/-- A plaintext is read back, a ciphertext is its message with a tag, and it opens with the key,
nonce and associated data that it was sealed with. -/
structure Primitives.SealLawful (p : Primitives) : Prop where
  decode_encode : ∀ plaintext bytes, p.encodePlaintext plaintext = .ok bytes →
    p.decodePlaintext bytes = .ok plaintext
  length_encrypt : ∀ key nonce aad message sealed, p.encrypt key nonce aad message = some sealed →
    sealed.length = message.length+16
  decrypt_encrypt : ∀ key nonce aad message sealed, p.encrypt key nonce aad message = some sealed →
    p.decrypt key nonce aad sealed = some message

end Primitives

section Hex
variable {p : Primitives}

/-- Bytes as the daemon writes them into its records. -/
def hexText (bytes : List UInt8) : String := "0x" ++ hexEncode bytes

def decodePrefixedHex (p : Primitives) (value field : String) :
    Except WalletdError (List UInt8) := do
  let hex := String.ofList (strip0x (trim value.toList))
  failIf (hex = "" ∨ hex.utf8ByteSize % 2 ≠ 0) (.crypto (field ++ " is not valid hex"))
  (p.hexDecode hex).mapError (fun error => .crypto (field ++ " is not valid hex: " ++ error))

/-- What holds of the sixteen digits holds of every digit that is written. -/
lemma hexDigit_all {P : Char → Bool} (hall : "0123456789abcdef".toList.all P = true) (n : ℕ) :
    P (hexDigit n) = true := by
  refine List.all_eq_true.mp hall _ ?_
  rcases Nat.lt_or_ge n 16 with h | h
  · rw [hexDigit, List.getD_eq_getElem _ _ (by simpa using h)]
    exact List.getElem_mem _
  · rw [hexDigit, List.getD_eq_default _ _ (by simpa using h)]
    decide

lemma hexEncode_all {P : Char → Bool} (hall : "0123456789abcdef".toList.all P = true)
    {bytes : List UInt8} {c : Char} (h : c ∈ (hexEncode bytes).toList) : P c = true := by
  simp only [hexEncode, String.toList_ofList, List.mem_flatMap, List.mem_cons, List.not_mem_nil,
    or_false] at h
  obtain ⟨x, -, rfl | rfl⟩ := h <;> exact hexDigit_all hall _

lemma trim_eq_self {l : List Char} (h : ∀ c ∈ l, isWhitespace c = false) : trim l = l := by
  have hdrop : ∀ l : List Char, (∀ c ∈ l, isWhitespace c = false) →
      l.dropWhile isWhitespace = l := by
    intro l hl
    cases l with
    | nil => rfl
    | cons c l => rw [List.dropWhile_cons_of_neg (by simp [hl c List.mem_cons_self])]
  rw [trim, hdrop l h, hdrop l.reverse (fun c hc => h c (List.mem_reverse.mp hc)),
    List.reverse_reverse]

lemma utf8ByteSize_hexEncode (bytes : List UInt8) :
    (hexEncode bytes).utf8ByteSize = 2*bytes.length := by
  have hone : ∀ n, (hexDigit n).utf8Size = 1 := fun n =>
    of_decide_eq_true (hexDigit_all (P := fun c => c.utf8Size = 1) (by decide) n)
  rw [hexEncode, String.utf8ByteSize_ofList]
  induction bytes with
  | nil => rfl
  | cons x bytes ih =>
    rw [List.flatMap_cons, List.cons_append, List.cons_append, List.nil_append,
      String.utf8Len_cons, String.utf8Len_cons, ih, hone, hone, List.length_cons]
    omega

lemma Primitives.HexLawful.decodePrefixedHex_hexText (hhex : p.HexLawful) {bytes : List UInt8}
    (hne : bytes ≠ []) (field : String) :
    decodePrefixedHex p (hexText bytes) field = .ok bytes := by
  have htext : (hexText bytes).toList = '0' :: 'x' :: (hexEncode bytes).toList := by
    simp [hexText]
  have hplain : ∀ c ∈ (hexText bytes).toList, isWhitespace c = false := by
    intro c hc
    rw [htext, List.mem_cons, List.mem_cons] at hc
    obtain rfl | rfl | hc := hc
    · decide
    · decide
    · exact of_decide_eq_true (hexEncode_all (P := fun c => isWhitespace c = false) (by decide) hc)
  have hstripped : String.ofList (strip0x (trim (hexText bytes).toList)) = hexEncode bytes := by
    rw [trim_eq_self hplain, htext, strip0x, String.ofList_toList]
  have hpos : 0 < bytes.length := List.length_pos_iff.mpr hne
  have hsize := utf8ByteSize_hexEncode bytes
  simp only [decodePrefixedHex, hstripped, unit_bind_eq_ok, failIf_eq_ok, mapError_eq_ok]
  refine ⟨?_, hhex bytes⟩
  rintro (hempty | hodd)
  · rw [hempty, String.utf8ByteSize_empty] at hsize
    omega
  · omega

end Hex

section Vault
variable {p : Primitives}

def deriveArgon2Key (p : Primitives) (domain passphrase : String) (salt : List UInt8) :
    Except WalletdError Bytes32 :=
  (p.argon2id identityVaultKdf (utf8Bytes domain ++ [0] ++ utf8Bytes passphrase) salt).mapError
    (fun error => .crypto ("Argon2 failed: " ++ error))

def identityDigest (p : Primitives) (domain : String) (context : IdentityVaultContext)
    (recoveryPhrase : List String) : Bytes32 :=
  p.sha256 (utf8Bytes domain ++ utf8Bytes ":" ++ utf8Bytes context.networkId ++ utf8Bytes ":" ++
    utf8Bytes context.protocolNetworkId ++ utf8Bytes ":" ++
    utf8Bytes context.canonicalChainDomain ++ utf8Bytes ":" ++
    recoveryPhrase.flatMap (fun word => utf8Bytes word ++ [0]))

def identityFingerprint (p : Primitives) (context : IdentityVaultContext)
    (recoveryPhrase : List String) : String :=
  hexText (identityDigest p "rgk-walletd:identity-fingerprint:v1" context recoveryPhrase).toList

def identitySecret (p : Primitives) (context : IdentityVaultContext)
    (recoveryPhrase : List String) : List UInt8 :=
  (identityDigest p "rgk-walletd:identity-secret:v1" context recoveryPhrase).toList

/-- The identity of a recovery phrase on its network. -/
def identityOf (p : Primitives) (context : IdentityVaultContext) (recoveryPhrase : List String) :
    UnlockedIdentity :=
  ⟨identityFingerprint p context recoveryPhrase, identitySecret p context recoveryPhrase⟩

def identityVaultAad (context : IdentityVaultContext) : String :=
  "rgk-walletd:identity-vault:v1:" ++ context.walletId ++ ":" ++ context.networkId ++ ":" ++
    context.protocolNetworkId ++ ":" ++ context.canonicalChainDomain

/-- What is sealed for a context and a phrase. -/
def plaintextOf (context : IdentityVaultContext) (recoveryPhrase : List String) :
    IdentityVaultPlaintext :=
  ⟨identityVaultVersion, context.walletId, context.networkId, context.protocolNetworkId,
    context.canonicalChainDomain, recoveryPhrase⟩

/-- The derived key has the cipher's key length by its type, so setting up the cipher cannot fail. -/
def encryptIdentityVault (p : Primitives) (entropy : Entropy) (context : IdentityVaultContext)
    (recoveryPhrase : List String) (passphrase : String) : Except WalletdError IdentityVault := do
  let salt ← entropy.salt.mapError .entropy
  let nonce ← entropy.nonce.mapError .entropy
  let plaintextBytes ← (p.encodePlaintext (plaintextOf context recoveryPhrase)).mapError
    (fun error => .crypto ("encode identity plaintext: " ++ error))
  let key ← deriveArgon2Key p "rgk-walletd:identity-vault-key:v1" passphrase salt.toList
  let ciphertext ← okOr
    (p.encrypt key nonce.toList (utf8Bytes (identityVaultAad context)) plaintextBytes)
    (.crypto "identity vault encryption failed")
  .ok ⟨identityVaultVersion, identityVaultCipher, identityVaultKdf, hexText salt.toList,
    hexText nonce.toList, hexText ciphertext⟩

def validateIdentityVaultHeader (vault : IdentityVault) : Except WalletdError Unit := do
  failIf (vault.version ≠ identityVaultVersion)
    (.crypto ("unsupported identity vault version " ++ toString vault.version.toNat))
  failIf (vault.cipher ≠ identityVaultCipher)
    (.crypto ("unsupported identity vault cipher " ++ vault.cipher))
  failIf (vault.kdf.algorithm ≠ identityVaultKdf.algorithm ∨
      vault.kdf.memoryKib ≠ identityVaultKdf.memoryKib ∨
      vault.kdf.iterations ≠ identityVaultKdf.iterations ∨
      vault.kdf.parallelism ≠ identityVaultKdf.parallelism)
    (.crypto "unsupported identity vault KDF parameters")

def validateIdentityPlaintext (context : IdentityVaultContext)
    (plaintext : IdentityVaultPlaintext) : Except WalletdError Unit :=
  failIf (plaintext.version ≠ identityVaultVersion ∨ plaintext.walletId ≠ context.walletId ∨
      plaintext.networkId ≠ context.networkId ∨
      plaintext.protocolNetworkId ≠ context.protocolNetworkId ∨
      plaintext.canonicalChainDomain ≠ context.canonicalChainDomain)
    (.crypto "identity vault plaintext does not match wallet profile")

def decryptIdentityVault (p : Primitives) (profile : WalletProfile) (vault : IdentityVault)
    (passphrase : String) : Except WalletdError UnlockedIdentity := do
  validateIdentityVaultHeader vault
  let context := IdentityVaultContext.fromProfile profile
  let salt ← decodePrefixedHex p vault.salt "identity vault salt"
  let nonce ← decodePrefixedHex p vault.nonce "identity vault nonce"
  failIf (nonce.length ≠ identityVaultNonceBytes)
    (.crypto ("identity vault nonce must be " ++ toString identityVaultNonceBytes ++ " bytes"))
  let ciphertext ← decodePrefixedHex p vault.ciphertext "identity vault ciphertext"
  let key ← deriveArgon2Key p "rgk-walletd:identity-vault-key:v1" passphrase salt
  let plaintextBytes ← okOr
    (p.decrypt key nonce (utf8Bytes (identityVaultAad context)) ciphertext) .unauthorized
  let plaintext ← (p.decodePlaintext plaintextBytes).mapError
    (fun error => .crypto ("decode identity plaintext: " ++ error))
  validateIdentityPlaintext context plaintext
  .ok (identityOf p context plaintext.recoveryPhrase)

/-- The vault was sealed for the profile's wallet and network, around a recovery phrase. -/
def SealedFor (p : Primitives) (profile : WalletProfile) (vault : IdentityVault)
    (recoveryPhrase : List String) : Prop :=
  ∃ entropy passphrase, encryptIdentityVault p entropy (.fromProfile profile) recoveryPhrase
    passphrase = .ok vault

/-- The vault, read for the profile, opens to an identity. -/
def Holds (p : Primitives) (profile : WalletProfile) (vault : IdentityVault)
    (identity : UnlockedIdentity) : Prop :=
  ∃ passphrase, decryptIdentityVault p profile vault passphrase = .ok identity

/-- The parts of a vault that was sealed, as decryption finds them again. -/
lemma Primitives.HexLawful.vault_parts (hhex : p.HexLawful) (hseal : p.SealLawful)
    {entropy : Entropy} {context : IdentityVaultContext} {phrase : List String} {passphrase : String}
    {vault : IdentityVault}
    (h : encryptIdentityVault p entropy context phrase passphrase = .ok vault) :
    validateIdentityVaultHeader vault = .ok () ∧
    ∃ salt nonce ciphertext bytes key,
      (∀ field, decodePrefixedHex p vault.salt field = .ok salt) ∧
      (∀ field, decodePrefixedHex p vault.nonce field = .ok nonce) ∧
      (∀ field, decodePrefixedHex p vault.ciphertext field = .ok ciphertext) ∧
      nonce.length = identityVaultNonceBytes ∧
      p.encodePlaintext (plaintextOf context phrase) = .ok bytes ∧
      deriveArgon2Key p "rgk-walletd:identity-vault-key:v1" passphrase salt = .ok key ∧
      p.encrypt key nonce (utf8Bytes (identityVaultAad context)) bytes = some ciphertext := by
  simp only [encryptIdentityVault, bind_eq_ok, mapError_eq_ok, okOr_eq_ok, Except.ok.injEq] at h
  obtain ⟨salt, -, nonce, -, bytes, hbytes, key, hkey, ciphertext, hsealed, rfl⟩ := h
  have hfilled : ∀ {n : ℕ} (b : Bytes (n+1)), b.toList ≠ [] := fun b =>
    List.ne_nil_of_length_eq_add_one b.length_toList
  have hct : ciphertext ≠ [] :=
    List.ne_nil_of_length_eq_add_one (hseal.length_encrypt _ _ _ _ _ hsealed)
  refine ⟨by simp [validateIdentityVaultHeader, unit_bind_eq_ok],
    salt.toList, nonce.toList, ciphertext, bytes, key,
    hhex.decodePrefixedHex_hexText (hfilled salt), hhex.decodePrefixedHex_hexText (hfilled nonce),
    hhex.decodePrefixedHex_hexText hct, nonce.length_toList, hbytes, hkey, hsealed⟩

lemma Primitives.HexLawful.decrypt_of_encrypt (hhex : p.HexLawful) (hseal : p.SealLawful)
    {entropy : Entropy}
    {profile : WalletProfile} {phrase : List String} {passphrase : String} {vault : IdentityVault}
    (h : encryptIdentityVault p entropy (.fromProfile profile) phrase passphrase = .ok vault) :
    decryptIdentityVault p profile vault passphrase =
      .ok (identityOf p (.fromProfile profile) phrase) := by
  obtain ⟨hheader, salt, nonce, ciphertext, bytes, key, hsalt, hnonce, hct, hlen, hbytes, hkey,
    hsealed⟩ := hhex.vault_parts hseal h
  simp only [decryptIdentityVault, bind_eq_ok, failIf_eq_ok, okOr_eq_ok,
    mapError_eq_ok, hsalt, hnonce, hct, Except.ok.injEq, exists_eq_left', hkey,
    hseal.decrypt_encrypt _ _ _ _ _ hsealed, Option.some.injEq, hseal.decode_encode _ _ hbytes]
  refine ⟨(), hheader, (), not_not.mpr hlen, (), ?_, rfl⟩
  simp [validateIdentityPlaintext, plaintextOf]

lemma Primitives.HexLawful.holds_of_sealed (hhex : p.HexLawful) (hseal : p.SealLawful)
    {profile : WalletProfile} {phrase : List String} {vault : IdentityVault}
    (h : SealedFor p profile vault phrase) :
    Holds p profile vault (identityOf p (.fromProfile profile) phrase) := by
  obtain ⟨entropy, passphrase, hvault⟩ := h
  exact ⟨passphrase, hhex.decrypt_of_encrypt hseal hvault⟩

end Vault

section Addresses

/-- Search for the first nonce, from the given one on, whose digest is a secret key. -/
def addressFrom (p : Primitives) (network : CliNetwork) (secret : List UInt8) :
    ℕ → ℕ → Except WalletdError String
  | 0, _ => .error (.crypto "could not derive a valid Kaspa wallet address")
  | left+1, nonce =>
    match p.xOnlyPublicKey (p.sha256 (utf8Bytes "rgk-walletd:kaspa-wallet-address-key:v1" ++
      utf8Bytes network.chainDomain ++ secret ++ le32 (UInt32.ofNat nonce))) with
    | some key => .ok (p.addressText network.addressPrefix key)
    | none => addressFrom p network secret left (nonce+1)

def deriveWalletAddress (p : Primitives) (network : CliNetwork) (identitySecret : List UInt8) :
    Except WalletdError String := addressFrom p network identitySecret (2^32) 0

end Addresses

section Material

def passphraseVerifierWithSalt (p : Primitives) (salt walletId passphrase : String) :
    Except WalletdError String := do
  let saltBytes ← decodePrefixedHex p salt "passphrase salt"
  let verifier ← deriveArgon2Key p "rgk-walletd:passphrase-verifier:v2"
    (walletId ++ "\x00" ++ passphrase) saltBytes
  .ok ("argon2id:v2:" ++ hexText verifier.toList)

structure WalletIdentityMaterial where
  passphraseSalt : String
  passphraseVerifier : String
  vault : IdentityVault
  identity : UnlockedIdentity

def buildWalletIdentityMaterial (p : Primitives) (entropy : Entropy)
    (context : IdentityVaultContext) (recoveryPhrase : List String) (passphrase : String) :
    Except WalletdError WalletIdentityMaterial := do
  let saltBytes ← entropy.passphraseSalt.mapError .entropy
  let passphraseSalt := hexText saltBytes.toList
  let passphraseVerifier ← passphraseVerifierWithSalt p passphraseSalt context.walletId passphrase
  let vault ← encryptIdentityVault p entropy context recoveryPhrase passphrase
  .ok ⟨passphraseSalt, passphraseVerifier, vault, identityOf p context recoveryPhrase⟩

lemma buildWalletIdentityMaterial_eq_ok {p : Primitives} {entropy : Entropy}
    {context : IdentityVaultContext} {phrase : List String} {passphrase : String}
    {material : WalletIdentityMaterial}
    (h : buildWalletIdentityMaterial p entropy context phrase passphrase = .ok material) :
    encryptIdentityVault p entropy context phrase passphrase = .ok material.vault ∧
      material.identity = identityOf p context phrase := by
  simp only [buildWalletIdentityMaterial, bind_eq_ok, Except.ok.injEq] at h
  obtain ⟨_, -, _, -, vault, hvault, rfl⟩ := h
  exact ⟨hvault, rfl⟩

end Material
end RgkProtocol.WalletIdentity
