import RgkProtocol.SharedRequests
import RgkProtocol.WalletIdentity

/-!
# Wallets and the identity session of the daemon

The daemon keeps one wallet: its profile, its identity vault and, while it is unlocked, the secret
of the identity in a session. Creating or importing a wallet and locking it are one critical
section each. Unlocking takes two: the vault is read in the first, opened without the lock, and the
identity that was found is written to whatever profile is stored in the second. Where another
wallet was created in between, the profile and the session of the new wallet get the identity of
the old one.
-/
namespace RgkProtocol.WalletSession
open ByteStrings Hashing CoreTypes Checked WalletScan Simulation SharedRequests WalletIdentity

section State

structure DaemonConfig where
  network : CliNetwork
  kaspaEndpoint : Option String

structure PersistedState where
  profile : Option WalletProfile
  passphraseSalt : Option String
  passphraseVerifier : Option String
  identityVault : Option IdentityVault
  deriving DecidableEq

structure RuntimeIdentitySession where
  walletId : Option String
  identityFingerprint : Option String
  identitySecret : Option (List UInt8)
  deriving DecidableEq

namespace RuntimeIdentitySession

def unlock (walletId : String) (identity : UnlockedIdentity) : RuntimeIdentitySession :=
  ⟨some walletId, some identity.identityFingerprint, some identity.identitySecret⟩

def clear : RuntimeIdentitySession := ⟨none, none, none⟩

end RuntimeIdentitySession

/-- The state behind the store lock. The session has a lock of its own, which is only taken while
the store lock is held. -/
structure Daemon where
  store : PersistedState
  session : RuntimeIdentitySession
  deriving DecidableEq

inductive Reply where
  | profile (profile : WalletProfile)
  | noContent
  | failed (error : ApiError)
  deriving DecidableEq

def PersistedState.empty : PersistedState := ⟨none, none, none, none⟩

def storedIdentityVaultStatus (hasVault : Bool) : IdentityVaultStatus :=
  if hasVault then .encrypted else .missing

def normaliseLoadedState (state : PersistedState) : PersistedState :=
  { state with profile := state.profile.map (fun profile => { profile with
      lifecycle := .locked
      identityVaultStatus := storedIdentityVaultStatus state.identityVault.isSome }) }

/-- The state of the file at the daemon's path, if there is one. -/
def loadState : Option PersistedState → PersistedState
  | none => .empty
  | some state => normaliseLoadedState state

def profileMatchesNetwork (profile : WalletProfile) (network : CliNetwork) : Bool :=
  profile.networkId = network.networkId ∧
    profile.protocolNetworkId = network.protocolNetworkId ∧
    profile.canonicalChainDomain = network.chainDomain

def isolateStateForNetwork (state : PersistedState) (network : CliNetwork) : PersistedState :=
  match state.profile with
  | none => state
  | some profile => if profileMatchesNetwork profile network then state else .empty

end State

section Validation

structure CreateWalletInput where
  walletId : String
  networkId : String
  protocolNetworkId : String
  canonicalChainDomain : String
  kaspaEndpoint : String
  passphrase : String
  recoveryPhrase : List String

structure UnlockWalletInput where
  passphrase : String

def validateInputNetwork (config : DaemonConfig) (input : CreateWalletInput) :
    Except WalletdError Unit :=
  failIf (input.networkId ≠ config.network.networkId ∨
      input.protocolNetworkId ≠ config.network.protocolNetworkId ∨
      input.canonicalChainDomain ≠ config.network.chainDomain)
    (.badRequest ("request network " ++ input.networkId ++ ", " ++ input.protocolNetworkId ++
      ", " ++ input.canonicalChainDomain ++ " does not match daemon network " ++
      config.network.networkId ++ ", " ++ config.network.protocolNetworkId ++ ", " ++
      config.network.chainDomain))

def trimmed (value : String) : String := String.ofList (trim value.toList)

def validateWalletId (value : String) : Except WalletdError String := do
  failIf ((trimmed value).utf8ByteSize < 3 ∨ 64 < (trimmed value).utf8ByteSize)
    (.badRequest "walletId must be 3-64 characters")
  failIf ((trimmed value).toList.all
      (fun c => c.isAlphanum || c = '-' || c = '_' || c = '.') = false)
    (.badRequest "walletId may contain only letters, numbers, dash, underscore, or dot")
  .ok (trimmed value)

def validatePassphrase (value : String) : Except WalletdError String := do
  failIf (value.utf8ByteSize < 8 ∨ 256 < value.utf8ByteSize)
    (.badRequest "passphrase must contain 8-256 characters")
  .ok value

def validateRecoveryPhrase (p : Primitives) (words : List String) :
    Except WalletdError (List String) := do
  failIf (words.length < 12) (.badRequest "recoveryPhrase must contain at least 12 words")
  let normalised := words.map (fun word => String.ofList ((trim word.toList).map Char.toLower))
  failIf ("" ∈ normalised) (.badRequest "recoveryPhrase words must be non-empty")
  failIf (p.parseMnemonic (" ".intercalate normalised) = false)
    (.badRequest "recoveryPhrase must be a valid English BIP39 mnemonic")
  .ok normalised

def isAsciiWhitespace (c : Char) : Bool :=
  c = ' ' || c = '\t' || c = '\n' || c.toNat = 0x0c || c = '\r'

def validateOptionalKaspaEndpoint (value : String) : Except WalletdError (Option String) :=
  if trimmed value = "" then .ok none
  else do
    failIf (2048 < (trimmed value).utf8ByteSize ∨
        (trimmed value).toList.any isAsciiWhitespace = true ∨
        ("ws://".toList.isPrefixOf (trimmed value).toList ||
          "wss://".toList.isPrefixOf (trimmed value).toList) = false)
      (.badRequest "kaspaEndpoint must be a ws:// or wss:// URL without whitespace")
    .ok (some (trimmed value))

def selectKaspaEndpoint (config : DaemonConfig) (value : String) :
    Except WalletdError String := do
  match ← validateOptionalKaspaEndpoint value with
  | some endpoint => .ok endpoint
  | none => okOr config.kaspaEndpoint (.badRequest
      "kaspaEndpoint is required when rgk-walletd has no configured Kaspa wRPC endpoint")

end Validation

section Handlers

/-- How the worker task and the write of the state file end. -/
structure Outcome where
  worker : Except String Unit
  write : Except String Unit

def joinWorker (outcome : Outcome) : Except WalletdError Unit :=
  outcome.worker.mapError (fun error => .crypto ("identity worker did not complete: " ++ error))

/-- The store and the session are changed before the file is written, and stay so if that fails. -/
def saveState (outcome : Outcome) (reply : Reply) : Reply :=
  match outcome.write with
  | .ok () => reply
  | .error error => .failed (apiError (.persist error))

def hexDigest (p : Primitives) (domain value : String) (bytes : ℕ) : String :=
  hexText ((p.sha256 (utf8Bytes domain ++ utf8Bytes ":" ++ utf8Bytes value)).toList.take
    (min bytes 32))

/-- All that creating a wallet does before it takes the lock. -/
def prepareWallet (p : Primitives) (config : DaemonConfig) (input : CreateWalletInput)
    (entropy : Entropy) (outcome : Outcome) :
    Except WalletdError (WalletProfile × WalletIdentityMaterial) := do
  validateInputNetwork config input
  let walletId ← validateWalletId input.walletId
  let recoveryPhrase ← validateRecoveryPhrase p input.recoveryPhrase
  let passphrase ← validatePassphrase input.passphrase
  let kaspaEndpoint ← selectKaspaEndpoint config input.kaspaEndpoint
  let network := config.network
  joinWorker outcome
  let material ← buildWalletIdentityMaterial p entropy
    ⟨walletId, network.networkId, network.protocolNetworkId, network.chainDomain⟩
    recoveryPhrase passphrase
  let address ← deriveWalletAddress p network material.identity.identitySecret
  let profile : WalletProfile :=
    { walletId
      protocol := "rgk"
      networkId := network.networkId
      protocolNetworkId := network.protocolNetworkId
      canonicalChainDomain := network.chainDomain
      kaspaEndpoint
      walletSetId := some (hexDigest p "wallet-set"
        (network.chainDomain ++ ":" ++ material.identity.identityFingerprint) 32)
      address := some address
      identityVaultStatus := .unlocked
      identityFingerprint := some material.identity.identityFingerprint
      lifecycle := .ready }
  .ok (profile, material)

def upsertWallet (p : Primitives) (config : DaemonConfig) (daemon : Daemon)
    (input : CreateWalletInput) (entropy : Entropy) (outcome : Outcome) : Reply × Daemon :=
  match prepareWallet p config input entropy outcome with
  | .error error => (.failed (apiError error), daemon)
  | .ok (profile, material) =>
    (saveState outcome (.profile profile),
      { store := ⟨some profile, some material.passphraseSalt, some material.passphraseVerifier,
          some material.vault⟩
        session := .unlock profile.walletId material.identity })

def createWallet := upsertWallet
def importWallet := upsertWallet

def lockWallet (daemon : Daemon) (outcome : Outcome) : Reply × Daemon :=
  match daemon.store.profile with
  | none => (.failed (apiError .notFound), daemon)
  | some profile =>
    (saveState outcome .noContent,
      { store := { daemon.store with profile := some { profile with
          lifecycle := .locked
          identityVaultStatus := storedIdentityVaultStatus daemon.store.identityVault.isSome } }
        session := .clear })

/-- What unlocking has read in its first critical section. -/
structure VaultSnapshot where
  profile : WalletProfile
  vault : IdentityVault
  passphrase : String
  deriving DecidableEq

def snapshotVault (daemon : Daemon) (input : UnlockWalletInput) :
    Except WalletdError VaultSnapshot := do
  let passphrase ← validatePassphrase input.passphrase
  let profile ← okOr daemon.store.profile .notFound
  let vault ← okOr daemon.store.identityVault
    (.badRequest "identity vault is missing; re-import this RGK wallet")
  .ok ⟨profile, vault, passphrase⟩

/-- The work of unlocking between its critical sections. -/
def openSnapshot (p : Primitives) (config : DaemonConfig) (snapshot : VaultSnapshot)
    (outcome : Outcome) : Except WalletdError (UnlockedIdentity × String) := do
  joinWorker outcome
  let identity ← decryptIdentityVault p snapshot.profile snapshot.vault snapshot.passphrase
  let address ← deriveWalletAddress p config.network identity.identitySecret
  .ok (identity, address)

/-- The profile that is stored now need not be the one of the snapshot. -/
def finishUnlock (p : Primitives) (config : DaemonConfig) (daemon : Daemon)
    (snapshot : VaultSnapshot) (outcome : Outcome) : Reply × Daemon :=
  match openSnapshot p config snapshot outcome with
  | .error error => (.failed (apiError error), daemon)
  | .ok (identity, address) =>
    match daemon.store.profile with
    | none => (.failed (apiError .notFound), daemon)
    | some stored =>
      let profile := { stored with
        lifecycle := .ready
        identityVaultStatus := .unlocked
        identityFingerprint := some identity.identityFingerprint
        address := some address }
      (saveState outcome (.profile profile),
        { store := { daemon.store with profile := some profile }
          session := .unlock profile.walletId identity })

/-- The requests that do their work in one critical section. -/
inductive WalletRequest where
  | create (input : CreateWalletInput) (entropy : Entropy) (outcome : Outcome)
  | importing (input : CreateWalletInput) (entropy : Entropy) (outcome : Outcome)
  | lock (outcome : Outcome)

abbrev WalletTurn := Turn WalletRequest UnlockWalletInput Outcome

def server (p : Primitives) (config : DaemonConfig) :
    Server Daemon VaultSnapshot WalletRequest UnlockWalletInput Outcome Reply where
  whole daemon
    | .create input entropy outcome => createWallet p config daemon input entropy outcome
    | .importing input entropy outcome => importWallet p config daemon input entropy outcome
    | .lock outcome => lockWallet daemon outcome
  read daemon input := (snapshotVault daemon input).mapError (fun error => .failed (apiError error))
  writeBack := finishUnlock p config

/-- The daemon as it starts on the file it finds. -/
def launch (config : DaemonConfig) (saved : Option PersistedState) : Shared Daemon VaultSnapshot :=
  ⟨⟨isolateStateForNetwork (loadState saved) config.network, .clear⟩, []⟩

end Handlers

section Coherence
variable (p : Primitives) (config : DaemonConfig)

/-- The stored profile shows the address and the fingerprint of the identity in the vault. -/
def ProfileCoherent (store : PersistedState) : Prop :=
  ∀ profile, store.profile = some profile → ∃ vault identity address,
    store.identityVault = some vault ∧ Holds p profile vault identity ∧
    deriveWalletAddress p config.network identity.identitySecret = .ok address ∧
    profile.identityFingerprint = some identity.identityFingerprint ∧
    profile.address = some address

/-- A secret in the session is the one of the wallet that is stored. -/
def SessionCoherent (daemon : Daemon) : Prop :=
  ∀ secret, daemon.session.identitySecret = some secret → ∃ profile vault identity,
    daemon.store.profile = some profile ∧ daemon.store.identityVault = some vault ∧
    Holds p profile vault identity ∧ daemon.session.walletId = some profile.walletId ∧
    secret = identity.identitySecret

def Coherent (daemon : Daemon) : Prop :=
  ProfileCoherent p config daemon.store ∧ SessionCoherent p daemon

/-- A request that can open the vault it has read finds a vault stored that holds the identity. -/
def FindsIdentity (daemon : Daemon) (snapshot : VaultSnapshot) (outcome : Outcome) : Prop :=
  ∀ identity address profile, openSnapshot p config snapshot outcome = .ok (identity, address) →
    daemon.store.profile = some profile →
    ∃ vault, daemon.store.identityVault = some vault ∧ Holds p profile vault identity

/-- All passphrases that open the stored vault find the same identity in it. -/
def OneIdentity (store : PersistedState) : Prop :=
  ∀ profile vault, store.profile = some profile → store.identityVault = some vault →
    ∀ identity identity', Holds p profile vault identity → Holds p profile vault identity' →
      identity = identity'

variable {p config}

lemma prepareWallet_eq_ok {input : CreateWalletInput} {entropy : Entropy} {outcome : Outcome}
    {profile : WalletProfile} {material : WalletIdentityMaterial}
    (h : prepareWallet p config input entropy outcome = .ok (profile, material)) :
    ∃ phrase address, SealedFor p profile material.vault phrase ∧
      material.identity = identityOf p (.fromProfile profile) phrase ∧
      deriveWalletAddress p config.network material.identity.identitySecret = .ok address ∧
      profile.identityFingerprint = some material.identity.identityFingerprint ∧
      profile.address = some address := by
  simp only [prepareWallet, bind_eq_ok, Except.ok.injEq, Prod.mk.injEq] at h
  obtain ⟨-, -, walletId, -, phrase, -, passphrase, -, endpoint, -, -, -, material', hmaterial,
    address, haddress, rfl, rfl⟩ := h
  obtain ⟨hvault, hidentity⟩ := buildWalletIdentityMaterial_eq_ok hmaterial
  exact ⟨phrase, address, ⟨entropy, passphrase, hvault⟩, hidentity, haddress, rfl, rfl⟩

lemma upsert_coherent (hhex : p.HexLawful) (hseal : p.SealLawful) {daemon : Daemon}
    {input : CreateWalletInput} {entropy : Entropy} {outcome : Outcome} (h : Coherent p config daemon) :
    Coherent p config (upsertWallet p config daemon input entropy outcome).2 := by
  cases hprepared : prepareWallet p config input entropy outcome with
  | error error => simpa only [upsertWallet, hprepared] using h
  | ok prepared =>
    obtain ⟨profile, material⟩ := prepared
    obtain ⟨phrase, address, hsealed, hidentity, haddress, hfingerprint, hshown⟩ :=
      prepareWallet_eq_ok hprepared
    have hholds : Holds p profile material.vault material.identity :=
      hidentity ▸ hhex.holds_of_sealed hseal hsealed
    simp only [upsertWallet, hprepared]
    constructor
    · rintro _ ⟨⟩
      exact ⟨material.vault, material.identity, address, rfl, hholds, haddress, hfingerprint, hshown⟩
    · rintro _ ⟨⟩
      exact ⟨profile, material.vault, material.identity, rfl, rfl, hholds, rfl, rfl⟩

lemma lock_coherent {daemon : Daemon} {outcome : Outcome} (h : Coherent p config daemon) :
    Coherent p config (lockWallet daemon outcome).2 := by
  cases hstored : daemon.store.profile with
  | none => simpa only [lockWallet, hstored] using h
  | some profile =>
    simp only [lockWallet, hstored]
    constructor
    · rintro _ ⟨⟩
      exact h.1 profile hstored
    · rintro _ ⟨⟩

lemma openSnapshot_eq_ok {snapshot : VaultSnapshot} {outcome : Outcome}
    {identity : UnlockedIdentity} {address : String}
    (h : openSnapshot p config snapshot outcome = .ok (identity, address)) :
    Holds p snapshot.profile snapshot.vault identity ∧
      deriveWalletAddress p config.network identity.identitySecret = .ok address := by
  simp only [openSnapshot, bind_eq_ok, Except.ok.injEq, Prod.mk.injEq] at h
  obtain ⟨-, -, identity', hopen, address', haddress, rfl, rfl⟩ := h
  exact ⟨⟨snapshot.passphrase, hopen⟩, haddress⟩

lemma findsIdentity_of_vault_kept {daemon : Daemon} {snapshot : VaultSnapshot} {outcome : Outcome}
    (hvault : daemon.store.identityVault = some snapshot.vault)
    (hprofile : daemon.store.profile.map IdentityVaultContext.fromProfile =
      some (.fromProfile snapshot.profile)) :
    FindsIdentity p config daemon snapshot outcome := by
  intro identity address profile hopened hstored
  obtain ⟨⟨passphrase, hopen⟩, -⟩ := openSnapshot_eq_ok hopened
  rw [hstored, Option.map_some, Option.some.injEq] at hprofile
  refine ⟨snapshot.vault, hvault, passphrase, ?_⟩
  rwa [decryptIdentityVault, hprofile]

/-- A profile unlocked with an identity, and a session that holds it. -/
def withIdentity (daemon : Daemon) (stored : WalletProfile) (identity : UnlockedIdentity)
    (address : String) : Daemon where
  store := { daemon.store with profile := some { stored with
    lifecycle := .ready
    identityVaultStatus := .unlocked
    identityFingerprint := some identity.identityFingerprint
    address := some address } }
  session := .unlock stored.walletId identity

lemma finishUnlock_of_ok {daemon : Daemon} {snapshot : VaultSnapshot} {outcome : Outcome}
    {identity : UnlockedIdentity} {address : String} {stored : WalletProfile}
    (hopened : openSnapshot p config snapshot outcome = .ok (identity, address))
    (hstored : daemon.store.profile = some stored) :
    (finishUnlock p config daemon snapshot outcome).2 =
      withIdentity daemon stored identity address := by
  simp only [finishUnlock, hopened, hstored, withIdentity]

lemma withIdentity_coherent {daemon : Daemon} {stored : WalletProfile} {vault : IdentityVault}
    {identity : UnlockedIdentity} {address : String}
    (hvault : daemon.store.identityVault = some vault) (hholds : Holds p stored vault identity)
    (haddress : deriveWalletAddress p config.network identity.identitySecret = .ok address) :
    Coherent p config (withIdentity daemon stored identity address) := by
  constructor
  · rintro _ ⟨⟩
    exact ⟨vault, identity, address, hvault, hholds, haddress, rfl, rfl⟩
  · rintro _ ⟨⟩
    exact ⟨_, vault, identity, rfl, hvault, hholds, rfl, rfl⟩

/-- Where the vault holds one identity, fingerprint and secret come from the same one. -/
lemma holds_of_withIdentity_coherent {daemon : Daemon} {stored : WalletProfile}
    {identity : UnlockedIdentity} {address : String}
    (hone : OneIdentity p (withIdentity daemon stored identity address).store)
    (h : Coherent p config (withIdentity daemon stored identity address)) :
    ∃ vault, daemon.store.identityVault = some vault ∧ Holds p stored vault identity := by
  obtain ⟨vault, shown, _, hvault, hshown, -, hfingerprint, -⟩ := h.1 _ rfl
  obtain ⟨_, vault', held, ⟨⟩, hvault', hheld, -, hsecret⟩ := h.2 _ rfl
  obtain rfl := Option.some.inj (hvault.symm.trans hvault')
  obtain rfl := hone _ vault rfl hvault shown held hshown hheld
  have hsame : identity = shown := by
    cases identity
    cases shown
    simp_all
  exact ⟨vault, hvault, hsame ▸ hheld⟩

lemma finishUnlock_coherent {daemon : Daemon} {snapshot : VaultSnapshot} {outcome : Outcome}
    (hcoherent : Coherent p config daemon) (hfinds : FindsIdentity p config daemon snapshot outcome) :
    Coherent p config (finishUnlock p config daemon snapshot outcome).2 := by
  cases hopened : openSnapshot p config snapshot outcome with
  | error error => simpa only [finishUnlock, hopened] using hcoherent
  | ok opened =>
    cases hstored : daemon.store.profile with
    | none => simpa only [finishUnlock, hopened, hstored] using hcoherent
    | some profile =>
      obtain ⟨vault, hvault, hholds⟩ := hfinds _ _ profile hopened hstored
      rw [finishUnlock_of_ok hopened hstored]
      exact withIdentity_coherent hvault hholds (openSnapshot_eq_ok hopened).2

lemma findsIdentity_of_coherent {daemon : Daemon} {snapshot : VaultSnapshot} {outcome : Outcome}
    (h : Coherent p config (finishUnlock p config daemon snapshot outcome).2 ∧
      OneIdentity p (finishUnlock p config daemon snapshot outcome).2.store) :
    FindsIdentity p config daemon snapshot outcome := by
  intro identity address profile hopened hstored
  rw [finishUnlock_of_ok hopened hstored] at h
  exact holds_of_withIdentity_coherent h.2 h.1

lemma server_rules (hhex : p.HexLawful) (hseal : p.SealLawful) :
    (server p config).Rules (Coherent p config) (FindsIdentity p config) where
  whole_safe daemon request hcoherent := by
    cases request with
    | create input entropy outcome => exact upsert_coherent hhex hseal hcoherent
    | importing input entropy outcome => exact upsert_coherent hhex hseal hcoherent
    | lock outcome => exact lock_coherent hcoherent
  writeBack_safe _ _ _ hcoherent hfinds := finishUnlock_coherent hcoherent hfinds

lemma launch_coherent {saved : Option PersistedState}
    (hsaved : ∀ state, saved = some state → ProfileCoherent p config state) :
    Coherent p config (launch config saved).state := by
  have hempty : ProfileCoherent p config .empty := by rintro _ ⟨⟩
  have hloaded : ProfileCoherent p config (loadState saved) := by
    cases saved with
    | none => exact hempty
    | some state =>
      intro profile hprofile
      obtain ⟨profile', hstored, rfl⟩ := Option.map_eq_some_iff.mp hprofile
      exact hsaved state rfl profile' hstored
  refine ⟨?_, fun _ h => by cases h⟩
  rw [launch, isolateStateForNetwork]
  split
  · exact hloaded
  · split
    · exact hloaded
    · exact hempty

end Coherence

section Samples

/-- Two recovery phrases of the word list. -/
def firstPhrase : List String := List.replicate 11 "abandon" ++ ["about"]
def secondPhrase : List String := List.replicate 11 "zoo" ++ ["wrong"]

def sampleConfig : DaemonConfig := ⟨.simnet, some "ws://127.0.0.1:18111"⟩

def sampleContext (walletId : String) : IdentityVaultContext :=
  ⟨walletId, sampleConfig.network.networkId, sampleConfig.network.protocolNetworkId,
    sampleConfig.network.chainDomain⟩

def samplePlaintexts : List IdentityVaultPlaintext :=
  [plaintextOf (sampleContext "wallet-a") firstPhrase,
    plaintextOf (sampleContext "wallet-b") secondPhrase]

/-- SHA-256 with a cipher that marks the message with a part of its key, and a text codec for the
two wallets of the samples. -/
def samplePrimitives : Primitives where
  sha256 := Sha256.digest
  argon2id _ password salt := .ok (Sha256.digest (password ++ salt))
  encrypt key _ _ message := some (key.toList.take 16 ++ message)
  decrypt key _ _ sealed :=
    if sealed.take 16 = key.toList.take 16 then some (sealed.drop 16) else none
  encodePlaintext plaintext :=
    if plaintext ∈ samplePlaintexts then
      .ok [UInt8.ofNat (samplePlaintexts.idxOf plaintext)] else .error "unknown"
  decodePlaintext
    | [i] => okOr samplePlaintexts[i.toNat]? "unknown"
    | _ => .error "unknown"
  hexDecode hex := okOr (fromHexPairs hex.toList) "Invalid character"
  xOnlyPublicKey key := some key
  addressText _ key := "kaspasim:" ++ hexEncode key.toList
  parseMnemonic phrase :=
    phrase = " ".intercalate firstPhrase ∨ phrase = " ".intercalate secondPhrase

lemma fromHexPairs_hexEncode (bytes : List UInt8) :
    fromHexPairs (hexEncode bytes).toList = some bytes := by
  have hdigit : ∀ n < 16, hexValue (Resolver.hexDigit n) = some (UInt8.ofNat n) := by decide
  rw [hexEncode, String.toList_ofList]
  induction bytes with
  | nil => rfl
  | cons x bytes ih =>
    have hlt := x.toNat_lt
    have hx : UInt8.ofNat (x.toNat/16)*16+UInt8.ofNat (x.toNat % 16) = x := by
      apply UInt8.toNat_inj.mp
      simp only [UInt8.toNat_add, UInt8.toNat_mul, UInt8.toNat_ofNat', UInt8.reduceToNat]
      omega
    simp [fromHexPairs, hdigit (x.toNat/16) (by omega), hdigit (x.toNat % 16) (by omega), hx, ih]

lemma samplePrimitives_hex : samplePrimitives.HexLawful :=
  fun bytes => okOr_eq_ok.mpr (fromHexPairs_hexEncode bytes)

lemma samplePrimitives_seal : samplePrimitives.SealLawful where
  decode_encode plaintext bytes h := by
    by_cases hmem : plaintext ∈ samplePlaintexts
    · simp only [samplePrimitives, hmem, if_true, Except.ok.injEq] at h
      subst h
      refine okOr_eq_ok.mpr ?_
      have hlt : samplePlaintexts.idxOf plaintext < 2 := List.idxOf_lt_length_of_mem hmem
      rw [UInt8.toNat_ofNat', Nat.mod_eq_of_lt (by omega)]
      exact List.getElem?_idxOf hmem
    · simp [samplePrimitives, hmem] at h
  length_encrypt key nonce aad message sealed h := by
    obtain rfl := Option.some.inj h
    simp [Nat.add_comm]
  decrypt_encrypt key nonce aad message sealed h := by
    obtain rfl := Option.some.inj h
    simp [samplePrimitives]

/-- The mark of the key is all that the cipher checks, so the samples' vaults hold one identity. -/
lemma sample_holds {profile : WalletProfile} {vault : IdentityVault} {phrase : List String}
    {identity : UnlockedIdentity} (hfor : SealedFor samplePrimitives profile vault phrase)
    (h : Holds samplePrimitives profile vault identity) :
    identity = identityOf samplePrimitives (.fromProfile profile) phrase := by
  obtain ⟨entropy, _, hvault⟩ := hfor
  obtain ⟨passphrase, h⟩ := h
  obtain ⟨-, salt, nonce, ciphertext, bytes, key, hsalt, hnonce, hct, -, hbytes, -, hsealed⟩ :=
    samplePrimitives_hex.vault_parts samplePrimitives_seal hvault
  simp only [decryptIdentityVault, bind_eq_ok, failIf_eq_ok, okOr_eq_ok,
    mapError_eq_ok, hsalt, hnonce, hct, Except.ok.injEq, exists_eq_left'] at h
  obtain ⟨-, -, -, -, key', -, bytes', hopen, plaintext, hplaintext, -, -, rfl⟩ := h
  have hsame : bytes' = bytes := by
    obtain rfl := Option.some.inj hsealed
    simp only [samplePrimitives] at hopen
    split at hopen
    · simpa using (Option.some.inj hopen).symm
    · cases hopen
  rw [hsame, samplePrimitives_seal.decode_encode _ _ hbytes] at hplaintext
  rw [← Except.ok.inj hplaintext]
  rfl

def sampleOutcome : Outcome := ⟨.ok (), .ok ()⟩

def sampleEntropy (b : UInt8) : Entropy :=
  ⟨.ok (Bytes.fill _ b), .ok (Bytes.fill _ (b+1)), .ok (Bytes.fill _ (b+2))⟩

def sampleWallet (walletId passphrase : String) (phrase : List String) : CreateWalletInput :=
  ⟨walletId, "rgk:kaspa-simnet", "kaspa-simnet", "kaspa-simnet", "", passphrase, phrase⟩

def createFirst : WalletTurn :=
  .whole (.create (sampleWallet "wallet-a" "first passphrase" firstPhrase) (sampleEntropy 1)
    sampleOutcome)

def importSecond : WalletTurn :=
  .whole (.importing (sampleWallet "wallet-b" "second passphrase" secondPhrase) (sampleEntropy 7)
    sampleOutcome)

def unlockFirst : WalletTurn := .read ⟨"first passphrase"⟩

def sampleTurns : List WalletTurn :=
  [createFirst, .whole (.lock sampleOutcome), unlockFirst, .writeBack 0 sampleOutcome]

def crossingTurns : List WalletTurn :=
  [createFirst, unlockFirst, importSecond, .writeBack 0 sampleOutcome]

/-- A run of the sample daemon, which starts without a state file. -/
def sampleRun (turns : List WalletTurn) : Shared Daemon VaultSnapshot :=
  stateAfter (server samplePrimitives sampleConfig).step (launch sampleConfig none) turns

/-- In the sample run no wallet is stored or the vault of the first one is. -/
lemma sampleRun_oneIdentity (ts : List WalletTurn) (hts : ts <+: sampleTurns) :
    OneIdentity samplePrimitives (sampleRun ts).state.store := by
  have hstates : ∀ ts ∈ sampleTurns.inits, (sampleRun ts).state.store.profile = none ∨
      (sampleRun ts).state.store.profile.map IdentityVaultContext.fromProfile =
        some (sampleContext "wallet-a") ∧
      ∃ vault ∈ (sampleRun ts).state.store.identityVault,
        encryptIdentityVault samplePrimitives (sampleEntropy 1) (sampleContext "wallet-a")
          firstPhrase "first passphrase" = .ok vault := by
    decide +kernel
  intro profile vault hprofile hvault identity identity' h h'
  obtain hnone | ⟨hcontext, vault', hstored, hseal⟩ := hstates ts ((List.mem_inits ts _).mpr hts)
  · cases hnone.symm.trans hprofile
  · rw [hprofile, Option.map_some, Option.some.injEq] at hcontext
    obtain rfl := Option.some.inj (hvault.symm.trans hstored)
    have hfor : SealedFor samplePrimitives profile vault firstPhrase := ⟨_, _, hcontext ▸ hseal⟩
    exact (sample_holds hfor h).trans (sample_holds hfor h').symm

end Samples

section Interleavings
variable {p : Primitives} {config : DaemonConfig}

/-- From a coherent start, the wallet and its session are coherent in every state that an
interleaving of requests reaches if every unlock that can open the vault it has read finds a vault
with that identity stored when it writes back; and only if, where the vaults that get stored hold
one identity each. -/
theorem wallet_coherent_iff (hhex : p.HexLawful) (hseal : p.SealLawful)
    {saved : Option PersistedState}
    (hsaved : ∀ state, saved = some state → ProfileCoherent p config state)
    (turns : List WalletTurn) :
    (AlongRun (server p config).step (Server.AtWriteBack (FindsIdentity p config))
        (launch config saved) turns →
      ∀ ts, ts <+: turns →
        Coherent p config (stateAfter (server p config).step (launch config saved) ts).state) ∧
    ((∀ ts, ts <+: turns →
        OneIdentity p (stateAfter (server p config).step (launch config saved) ts).state.store) →
      (∀ ts, ts <+: turns →
        Coherent p config (stateAfter (server p config).step (launch config saved) ts).state) →
      AlongRun (server p config).step (Server.AtWriteBack (FindsIdentity p config))
        (launch config saved) turns) := by
  refine ⟨(server_rules hhex hseal).run_safe (launch_coherent hsaved), fun hone hall => ?_⟩
  exact Server.alongRun_of_safe
    (P := fun daemon => Coherent p config daemon ∧ OneIdentity p daemon.store)
    (fun _ _ _ => findsIdentity_of_coherent) (fun ts hts => ⟨hall ts hts, hone ts hts⟩)

theorem wallet_coherent_iff_sample :
    samplePrimitives.HexLawful ∧ samplePrimitives.SealLawful ∧
    (∀ ts, ts <+: sampleTurns → OneIdentity samplePrimitives (sampleRun ts).state.store ∧
      Coherent samplePrimitives sampleConfig (sampleRun ts).state) ∧
    (sampleRun sampleTurns).state.session.walletId = some "wallet-a" := by
  -- the vault that was read is still stored at the write-back
  have hrun : (∀ snapshot ∈ (sampleRun (sampleTurns.take 3)).reads,
        (sampleRun (sampleTurns.take 3)).state.store.identityVault = some snapshot.vault ∧
        (sampleRun (sampleTurns.take 3)).state.store.profile.map IdentityVaultContext.fromProfile =
          some (.fromProfile snapshot.profile)) ∧
      (sampleRun sampleTurns).state.session.walletId = some "wallet-a" := by
    decide +kernel
  have hkept := (@wallet_coherent_iff samplePrimitives sampleConfig samplePrimitives_hex
    samplePrimitives_seal none (by simp) sampleTurns).1
  refine ⟨samplePrimitives_hex, samplePrimitives_seal, fun ts hts => ⟨sampleRun_oneIdentity ts hts,
    hkept ⟨trivial, trivial, trivial, fun snapshot hread => ?_, trivial⟩ ts hts⟩, hrun.2⟩
  obtain ⟨hvault, hprofile⟩ := hrun.1 snapshot (List.mem_of_getElem? hread)
  exact findsIdentity_of_vault_kept hvault hprofile

lemma crossing_run :
    (∃ profile ∈ (sampleRun crossingTurns).state.store.profile,
      ∃ vault ∈ (sampleRun crossingTurns).state.store.identityVault,
        IdentityVaultContext.fromProfile profile = sampleContext "wallet-b" ∧
        encryptIdentityVault samplePrimitives (sampleEntropy 7) (sampleContext "wallet-b")
          secondPhrase "second passphrase" = .ok vault ∧
        profile.identityFingerprint =
          some (identityFingerprint samplePrimitives (sampleContext "wallet-a") firstPhrase)) ∧
    (sampleRun crossingTurns).state.session.walletId = some "wallet-b" ∧
    (sampleRun crossingTurns).state.session.identitySecret =
      some (identitySecret samplePrimitives (sampleContext "wallet-a") firstPhrase) ∧
    identityFingerprint samplePrimitives (sampleContext "wallet-a") firstPhrase ≠
      identityFingerprint samplePrimitives (sampleContext "wallet-b") secondPhrase := by
  decide +kernel

/-- The second wallet is stored, with the fingerprint of the first and its secret in the session. -/
theorem unlock_crosses_wallets :
    let daemon := (sampleRun crossingTurns).state
    let first := identityOf samplePrimitives (sampleContext "wallet-a") firstPhrase
    daemon.store.profile.map WalletProfile.walletId = some "wallet-b" ∧
    daemon.store.profile.bind WalletProfile.identityFingerprint = some first.identityFingerprint ∧
    daemon.session.walletId = some "wallet-b" ∧
    daemon.session.identitySecret = some first.identitySecret ∧
    ¬Coherent samplePrimitives sampleConfig daemon := by
  obtain ⟨⟨profile, hprofile, vault, hvault, hcontext, hseal, hshown⟩, hwallet, hsecret,
    hdiffer⟩ := crossing_run
  rw [Option.mem_def] at hprofile hvault
  have hid : profile.walletId = "wallet-b" := congrArg IdentityVaultContext.walletId hcontext
  refine ⟨by rw [hprofile, Option.map_some, hid], by rw [hprofile, Option.bind_some, hshown]; rfl,
    hwallet, hsecret, ?_⟩
  rintro ⟨hcoherent, -⟩
  obtain ⟨vault', identity, -, hv, hholds, -, hfingerprint, -⟩ := hcoherent profile hprofile
  obtain rfl := Option.some.inj (hvault.symm.trans hv)
  have hsealed : SealedFor samplePrimitives profile vault secondPhrase :=
    ⟨sampleEntropy 7, "second passphrase", hcontext ▸ hseal⟩
  rw [sample_holds hsealed hholds, hcontext, hshown] at hfingerprint
  exact hdiffer (Option.some.inj hfingerprint)

end Interleavings
end RgkProtocol.WalletSession
