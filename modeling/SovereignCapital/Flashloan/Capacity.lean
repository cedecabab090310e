import SovereignCapital.Abi.Ethabi

/-! # The capacity of a flash loan provider

`flashloan_capacity.py` asks the node what a provider could lend of an asset. The call it makes
goes to the provider and names the asset: the balance of an ERC-20 is read the other way around,
by a call to the asset that names the provider. The observation is the balance exactly where the
two calls happen to be answered alike.
-/

namespace SovereignCapital.Flashloan

open Bytes Abi

/-! ## The node -/

/-- An answer of the node: a result, which is nothing when it is not a text, or an error. -/
inductive RpcResult where
  | answered (result : Option Text)
  | failed (error : Option Text)

/-- The node, at one state of the chain: target, data and block of a call give its answer. -/
structure Rpc where
  answer : Text → Text → Text → RpcResult

def Rpc.ethCall (rpc : Rpc) (target data block : Text) : RpcResult := rpc.answer target data block

/-! ## Addresses and calls -/

def balanceOfSelector : Text := "70a08231".toList

/-- `_ADDRESS_RE.fullmatch`. -/
def isAddress (t : Text) : Bool :=
  match strip0x t with
  | some digits => digits.length == 40 && digits.all fun c => (hexVal c).isSome
  | none => false

/-- `_address_word`; nothing where it raises. -/
def addressWord (address : Text) : Option Text :=
  if isAddress address then
    some (with0x (List.replicate 24 '0' ++ pyLower (address.drop 2)))
  else none

/-- The data of `balanceOf(owner)`, nothing where the owner is no address. -/
def balanceOfData (owner : Text) : Option Text :=
  (addressWord owner).map fun word => with0x (balanceOfSelector ++ word.drop 2)

def normalizeFlashloanProvider (provider : Text) : Text := pyLower (pyStrip provider)

def executableProviders : List Text := ["aave".toList, "balancer".toList]

/-! ## The observation -/

/-- What `observe_flashloan_asset_capacity` returns; a key that a branch leaves out is nothing. -/
structure Observation where
  ok : Bool
  provider : Text
  asset : Text
  providerAddress : Option Text := none
  rawAvailable : Option Int := none
  capacityUsd : Option ℚ := none
  block : Option Text := none
  source : Option Text := none
  reasonCode : Text
  error : Option Text := none
  deriving DecidableEq

/-- The amount of an answer, nothing where the code finds it malformed. -/
def readAmount : Option Text → Option Int
  | some raw => if (strip0x raw).isSome then pyInt 16 raw else none
  | none => none

def observeFlashloanAssetCapacity (rpc : Rpc) (provider asset providerAddress block : Text) :
    Observation :=
  let normalized := normalizeFlashloanProvider provider
  if normalized ∉ executableProviders then
    { ok := false, provider := normalized, asset
      reasonCode := "unsupported_flashloan_provider:".toList
        ++ if normalized = [] then "missing".toList else normalized }
  else if isAddress asset = false then
    { ok := false, provider := normalized, asset, reasonCode := "invalid_asset_address".toList }
  else if isAddress providerAddress = false then
    { ok := false, provider := normalized, asset
      reasonCode := "provider_address_missing_or_invalid".toList }
  else
    -- the target is the provider, and the owner asked about is the asset
    match rpc.ethCall providerAddress ((balanceOfData asset).getD []) block with
    | .failed error =>
      { ok := false, provider := normalized, asset, providerAddress := some providerAddress
        block := some block, reasonCode := "provider_asset_balance_unavailable".toList, error }
    | .answered raw =>
      match readAmount raw with
      | none =>
        { ok := false, provider := normalized, asset, providerAddress := some providerAddress
          block := some block, reasonCode := "provider_asset_balance_malformed".toList }
      | some amount =>
        { ok := true, provider := normalized, asset, providerAddress := some providerAddress
          rawAvailable := some amount, block := some block
          source := some "erc20_balance_of_provider_contract".toList
          reasonCode := "observed_provider_asset_balance".toList }

def Observation.available (o : Observation) : Option Int := if o.ok then o.rawAvailable else none

/-! ## The balance of an ERC-20 -/

/-- `_decode_uint256_result`: the first word of an answer. -/
def decodeUint256 : RpcResult → Option Int
  | .answered (some raw) =>
    (fromHex ((strip0x raw).getD raw)).bind fun payload =>
      if payload.length < 32 then none else some (beNat (payload.take 32))
  | _ => none

/-- `asset.balanceOf(owner)` at a block: nothing where one of the two is no address, the call
fails or its answer is no word. -/
def erc20Balance (rpc : Rpc) (asset owner block : Text) : Option Int :=
  if isAddress asset then
    (balanceOfData owner).bind fun data => decodeUint256 (rpc.ethCall asset data block)
  else none

def answeredAmount : RpcResult → Option Int
  | .answered raw => readAmount raw
  | .failed _ => none

/-! ## The calls are the calls of the ABI -/

theorem isAddress_iff_balanceOfData (t : Text) :
    isAddress t = true ↔ (balanceOfData t).isSome = true := by
  cases h : isAddress t <;> simp [balanceOfData, addressWord, h]

/-! ## Words read alike -/

theorem digitsValue_toHex_concat {v : Nat} {afterDigit : Bool} {t : Text} {acc : Nat}
    (h : digitsValue 16 acc afterDigit t = some v) (b : Byte) :
    digitsValue 16 acc afterDigit (t ++ hexPair b) = some (v * 256 + b.val) := by
  have hhi := digitsValue_concat (d := b.val / 16) (by omega) (by omega) h
  have hlo := digitsValue_concat (d := b.val % 16) (by omega) (by omega) hhi
  rw [List.append_assoc] at hlo
  show digitsValue 16 acc afterDigit (t ++ ([_] ++ [_])) = _
  rw [hlo]
  congr 1
  omega

theorem digitsValue_toHex (bs : List Byte) (b : Byte) :
    digitsValue 16 0 false (toHex (bs ++ [b])) = some (beNat (bs ++ [b])) := by
  have hpair : toHex [b] = hexPair b := by simp [toHex]
  induction bs using List.reverseRecOn generalizing b with
  | nil =>
    obtain ⟨hhi, -, -⟩ := digitChar_spec (b.val / 16) (by omega)
    have hfirst : digitsValue 16 0 false [Nat.digitChar (b.val / 16)] = some (b.val / 16) := by
      simp [digitsValue, digitChar_ne_underscore (show b.val / 16 < 16 by omega), hhi]
      omega
    have hboth := digitsValue_concat (d := b.val % 16) (by omega) (by omega) hfirst
    have hvalue : b.val / 16 * 16 + b.val % 16 = beNat ([] ++ [b]) := by
      rw [beNat_concat, beNat_nil]
      omega
    rw [hvalue] at hboth
    rw [List.nil_append] at hboth ⊢
    rw [hpair]
    exact hboth
  | append_singleton bs c ih =>
    rw [toHex_append, beNat_concat, hpair]
    exact digitsValue_toHex_concat (ih c (by simp [toHex])) b

/-- `int(raw, 16)` of written bytes. -/
theorem pyInt_with0x_toHex {bs : List Byte} (hne : bs ≠ []) :
    pyInt 16 (with0x (toHex bs)) = some (beNat bs : Int) := by
  have hdigits : digitsValue 16 0 false (toHex bs) = some (beNat bs) := by
    obtain ⟨front, last, rfl⟩ := (List.eq_nil_or_concat' bs).resolve_left hne
    exact digitsValue_toHex front last
  have hprefix : unsignedValue 16 (with0x (toHex bs)) = digitsValue 16 0 false (toHex bs) := by
    cases bs with
    | nil => exact absurd rfl hne
    | cons b rest =>
      refine unsignedValue.eq_3 _ fun digits h => ?_
      exact digitChar_ne_underscore (show b.val / 16 < 16 by omega) (List.cons.inj h).1
  have hvalue : unsignedValue 16 (with0x (toHex bs)) = some (beNat bs) := hprefix.trans hdigits
  rw [with0x] at hvalue
  unfold pyInt
  rw [pyStrip_with0x_toHex]
  simp [with0x, hvalue]

def RpcResult.word (w : Word) : RpcResult := .answered (some (with0x (toHex (wordBytes w))))

theorem wordBytes_ne_nil (w : Word) : wordBytes w ≠ [] := by
  intro h
  have hlen := length_wordBytes w
  simp [h] at hlen

theorem answeredAmount_word (w : Word) : answeredAmount (.word w) = some (w.val : Int) := by
  rw [RpcResult.word, answeredAmount, readAmount, strip0x_with0x, Option.isSome_some, if_pos rfl,
    pyInt_with0x_toHex (wordBytes_ne_nil w), beNat_wordBytes]

theorem decodeUint256_word (w : Word) : decodeUint256 (.word w) = some (w.val : Int) := by
  rw [RpcResult.word, decodeUint256, strip0x_with0x, Option.getD_some, fromHex_toHex,
    Option.bind_some, length_wordBytes, if_neg (by omega),
    List.take_of_length_le (by rw [length_wordBytes]), beNat_wordBytes]

/-! ## What is reported -/

/-- The two calls read the same amount, or neither of them reads one. -/
def CallsAgree (rpc : Rpc) (asset providerAddress block : Text) : Prop :=
  ∀ ofAsset ∈ balanceOfData asset, ∀ ofProvider ∈ balanceOfData providerAddress,
    answeredAmount (rpc.ethCall providerAddress ofAsset block)
      = decodeUint256 (rpc.ethCall asset ofProvider block)

theorem callsAgree_of_words {rpc : Rpc} {asset providerAddress block : Text} {w v : Word}
    (hprovider : ∀ ofAsset ∈ balanceOfData asset,
      rpc.ethCall providerAddress ofAsset block = .word w)
    (hasset : ∀ ofProvider ∈ balanceOfData providerAddress,
      rpc.ethCall asset ofProvider block = .word v) (h : w = v) :
    CallsAgree rpc asset providerAddress block := by
  intro ofAsset hofAsset ofProvider hofProvider
  rw [hprovider ofAsset hofAsset, hasset ofProvider hofProvider, answeredAmount_word,
    decodeUint256_word, h]

/-- **The observation reads what the provider answers.** -/
theorem available_observe (rpc : Rpc) {provider : Text} (asset providerAddress block : Text)
    (hprovider : normalizeFlashloanProvider provider ∈ executableProviders) :
    (observeFlashloanAssetCapacity rpc provider asset providerAddress block).available
      = if isAddress providerAddress then
          (balanceOfData asset).bind fun data =>
            answeredAmount (rpc.ethCall providerAddress data block)
        else none := by
  unfold observeFlashloanAssetCapacity
  rw [if_neg (not_not_intro hprovider)]
  by_cases hasset : isAddress asset = true
  · have hsome := (isAddress_iff_balanceOfData asset).1 hasset
    obtain ⟨data, hdata⟩ := Option.isSome_iff_exists.1 hsome
    rw [if_neg (by simp [hasset]), hdata, Option.getD_some, Option.bind_some]
    by_cases haddress : isAddress providerAddress = true
    · rw [if_neg (by simp [haddress]), if_pos haddress]
      cases rpc.ethCall providerAddress data block with
      | failed error => rfl
      | answered raw =>
        show Observation.available (match readAmount raw with | none => _ | some amount => _) = _
        show _ = readAmount raw
        cases readAmount raw <;> rfl
    · rw [if_pos (by simpa using haddress), if_neg haddress]
      rfl
  · have hdata : balanceOfData asset = none := by
      rw [isAddress_iff_balanceOfData] at hasset
      simpa using hasset
    rw [if_pos (by simpa using hasset), hdata]
    split <;> rfl

/-- **A supported provider is observed to hold its balance of the asset exactly where the call to
the provider is answered as the call to the asset is.** -/
theorem capacity_is_balance_iff (rpc : Rpc) (provider asset providerAddress block : Text)
    (hprovider : normalizeFlashloanProvider provider ∈ executableProviders) :
    (observeFlashloanAssetCapacity rpc provider asset providerAddress block).available
        = erc20Balance rpc asset providerAddress block
      ↔ CallsAgree rpc asset providerAddress block := by
  rw [available_observe rpc asset providerAddress block hprovider, erc20Balance]
  have hasset := isAddress_iff_balanceOfData asset
  have haddress := isAddress_iff_balanceOfData providerAddress
  unfold CallsAgree
  cases hofAsset : balanceOfData asset with
  | none =>
    rw [hofAsset] at hasset
    simp [hasset]
  | some ofAsset =>
    cases hofProvider : balanceOfData providerAddress with
    | none =>
      rw [hofProvider] at haddress
      simp [haddress]
    | some ofProvider =>
      rw [hofAsset] at hasset
      rw [hofProvider] at haddress
      simp [hasset, haddress]

/-! ## A pool that holds 25 ether -/

def weth : Text := "0xC02aaA39b223FE8D0A0e5C4F27eAD9083C756Cc2".toList

def aavePool : Text := "0x87870Bca3F3fD6335C3F4ce8392D69350B4fA4E2".toList

/-- The token answers for the balance of the pool; any other call is reverted, as the pool has no
function `balanceOf`. -/
def tokenChain : Rpc where
  answer target data _ :=
    if target = weth ∧ some data = balanceOfData aavePool then
      .answered (some (with0x (pyRjust 64 '0' (Nat.toDigits 16 (25 * 10 ^ 18)))))
    else .failed (some "execution reverted".toList)

/-- The pool holds 25 ether, and the observation says that its balance is not available. -/
theorem capacity_not_balance :
    erc20Balance tokenChain weth aavePool "latest".toList = some (25 * 10 ^ 18) ∧
      observeFlashloanAssetCapacity tokenChain " AAVE ".toList weth aavePool "latest".toList
        = { ok := false, provider := "aave".toList, asset := weth
            providerAddress := some aavePool, block := some "latest".toList
            reasonCode := "provider_asset_balance_unavailable".toList
            error := some "execution reverted".toList } ∧
      (observeFlashloanAssetCapacity tokenChain " AAVE ".toList weth aavePool
        "latest".toList).available = none := by
  decide +kernel

/-- A node that answers every call with the same word. -/
def doubleChain (w : Word) : Rpc where
  answer _ _ _ := .word w

theorem capacity_is_balance_iff_double :
    (observeFlashloanAssetCapacity (doubleChain 7) "aave".toList weth aavePool
        "latest".toList).available
      = erc20Balance (doubleChain 7) weth aavePool "latest".toList :=
  (capacity_is_balance_iff (doubleChain 7) "aave".toList weth aavePool "latest".toList
    (by decide)).2 (callsAgree_of_words (fun _ _ => rfl) (fun _ _ => rfl) rfl)

end SovereignCapital.Flashloan
