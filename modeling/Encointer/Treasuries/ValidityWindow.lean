import Encointer.Balances.Failures
import Encointer.Democracy.Confirmation
import Encointer.Treasuries.SwapAccounting

/-!
# The validity window of swap options

An option states a first and a latest time of validity, and no swap looks at
them. It succeeds whenever the other checks pass, inside the window or outside.
So an expired option can be exercised, until another check refuses.
-/

namespace Encointer

open Checked Dispatch

variable {AccountId : Type} [DecidableEq AccountId] {config : Config AccountId}
  {s : Runtime AccountId} {cid : CommunityIdentifier} {owner : AccountId} {amount rate : Nat}

namespace Treasuries

/-- The moment lies between the first and the latest time of validity, where these are set. -/
def InWindow (now : Nat) (validFrom validUntil : Option Nat) : Prop :=
  (∀ first ∈ validFrom, first ≤ now) ∧ ∀ latest ∈ validUntil, now ≤ latest

instance (now : Nat) (validFrom validUntil : Option Nat) :
    Decidable (InWindow now validFrom validUntil) :=
  inferInstanceAs (Decidable (_ ∧ _))

/-! ## The other checks -/

/-- The owner has the community currency, and it can be burned or moved to the treasury. -/
def Payable (config : Config AccountId) (s : Runtime AccountId) (cid : CommunityIdentifier)
    (owner : AccountId) (ccAmount : Nat) : Bool → Prop
  | true => ccAmount ≤ Balances.balance config s.blockNumber s.balances cid owner
  | false => Balances.Transferable config s.blockNumber s.balances cid owner
      (config.treasuryAccount (some cid)) ccAmount

private theorem payCommunityCurrency_succeeds_iff {ccAmount : Nat} {doBurn : Bool} :
    (∃ balances, payCommunityCurrency config s cid owner ccAmount doBurn = .ok balances) ↔
      Payable config s cid owner ccAmount doBurn := by
  cases doBurn with
  | true => simp [payCommunityCurrency, Payable, transactional_eq_ok, Balances.burn_succeeds_iff]
  | false =>
      simp [payCommunityCurrency, Payable, transactional_eq_ok, Balances.doTransfer_succeeds_iff]

def Priced (config : Config AccountId) (s : Runtime AccountId) (cid : CommunityIdentifier)
    (owner : AccountId) (amount : Nat) (rate : Option Nat) (doBurn : Bool) : Prop :=
  ∃ perUnit, rate = some perUnit ∧ amount < 2 ^ 64 ∧ amount * perUnit < 2 ^ 128 ∧
    Payable config s cid owner (amount * perUnit) doBurn

/-- What a swap for native tokens asks of an option, the funds and the currency. -/
structure NativeRedeemable (config : Config AccountId) (s : Runtime AccountId)
    (cid : CommunityIdentifier) (owner : AccountId) (amount : Nat) (option : SwapNativeOption) :
    Prop where
  allowance : amount ≤ option.nativeAllowance
  funds : amount ≤ s.treasuries.nativeBalances.get (config.treasuryAccount (some cid)) 0 -
    config.minimumBalance
  priced : Priced config s cid owner amount option.rate option.doBurn
  paid : ∃ nativeBalances, config.currencyTransfer s.treasuries.nativeBalances
    (config.treasuryAccount (some cid)) owner amount = some nativeBalances

/-- A swap for another asset trusts the paymaster with the funds. -/
structure AssetRedeemable (config : Config AccountId) (s : Runtime AccountId)
    (cid : CommunityIdentifier) (owner : AccountId) (amount : Nat) (option : SwapAssetOption) :
    Prop where
  allowance : amount ≤ option.assetAllowance
  priced : Priced config s cid owner amount option.rate option.doBurn
  paid : ∃ assetBalances, config.paymasterTransfer s.treasuries.assetBalances
    (config.treasuryAccount (some cid)) owner option.assetId amount = some assetBalances

theorem priced_iff {rate : Option Nat} {doBurn : Bool} :
    Priced config s cid owner amount rate doBurn ↔
      ∃ perUnit, rate = some perUnit ∧
        ∃ ccAmount, Treasuries.ccAmount amount perUnit = .ok ccAmount ∧
          ∃ balances, payCommunityCurrency config s cid owner ccAmount doBurn = .ok balances := by
  simp only [Priced, ccAmount_eq_ok, payCommunityCurrency_succeeds_iff]
  constructor
  · rintro ⟨perUnit, hrate, hamount, hproduct, hpay⟩
    exact ⟨perUnit, hrate, _, ⟨hamount, hproduct, rfl⟩, hpay⟩
  · rintro ⟨perUnit, hrate, _, ⟨hamount, hproduct, rfl⟩, hpay⟩
    exact ⟨perUnit, hrate, hamount, hproduct, hpay⟩

theorem swapNative_succeeds_iff :
    (∃ result, swapNative config s owner cid amount = .ok result) ↔
      ∃ option, s.treasuries.swapNativeOptions.lookup (cid, owner) = some option ∧
        NativeRedeemable config s cid owner amount option := by
  simp only [swapNative, doSpendNative, doIssueSwapNativeOption, bind_eq_ok, okOr_eq_ok,
    ensure_eq_ok, ok_inj, exists_const]
  constructor
  · rintro ⟨_, option, hoption, hallowance, hfunds, rate, hrate, ccAmount, hcc, balances, hpay, _,
      ⟨nativeBalances, htransfer, -⟩, -⟩
    exact ⟨option, hoption, hallowance, hfunds,
      priced_iff.2 ⟨rate, hrate, ccAmount, hcc, balances, hpay⟩, nativeBalances, htransfer⟩
  · rintro ⟨option, hoption, hallowance, hfunds, hpriced, nativeBalances, htransfer⟩
    obtain ⟨rate, hrate, ccAmount, hcc, balances, hpay⟩ := priced_iff.1 hpriced
    exact ⟨_, option, hoption, hallowance, hfunds, rate, hrate, ccAmount, hcc, balances, hpay, _,
      ⟨nativeBalances, htransfer, rfl⟩, rfl⟩

theorem swapAsset_succeeds_iff :
    (∃ result, swapAsset config s owner cid amount = .ok result) ↔
      ∃ option, s.treasuries.swapAssetOptions.lookup (cid, owner) = some option ∧
        AssetRedeemable config s cid owner amount option := by
  simp only [swapAsset, doSpendAsset, doIssueSwapAssetOption, bind_eq_ok, okOr_eq_ok, ensure_eq_ok,
    ok_inj, exists_const]
  constructor
  · rintro ⟨_, option, hoption, hallowance, rate, hrate, ccAmount, hcc, balances, hpay, _,
      ⟨assetBalances, htransfer, -⟩, -⟩
    exact ⟨option, hoption, hallowance,
      priced_iff.2 ⟨rate, hrate, ccAmount, hcc, balances, hpay⟩, assetBalances, htransfer⟩
  · rintro ⟨option, hoption, hallowance, hpriced, assetBalances, htransfer⟩
    obtain ⟨rate, hrate, ccAmount, hcc, balances, hpay⟩ := priced_iff.1 hpriced
    exact ⟨_, option, hoption, hallowance, rate, hrate, ccAmount, hcc, balances, hpay, _,
      ⟨assetBalances, htransfer, rfl⟩, rfl⟩

/-! ## Swaps in time -/

/-- A swap that succeeds does so inside the validity window of its option. -/
def Timely (config : Config AccountId) (chain : Chain AccountId) : Action AccountId → Prop
  | .swapNative owner cid amount =>
      (swapNative config chain.runtime owner cid amount).isOk = true →
        ∀ option, chain.runtime.treasuries.swapNativeOptions.lookup (cid, owner) = some option →
          InWindow chain.runtime.now option.validFrom option.validUntil
  | .swapAsset owner cid amount =>
      (swapAsset config chain.runtime owner cid amount).isOk = true →
        ∀ option, chain.runtime.treasuries.swapAssetOptions.lookup (cid, owner) = some option →
          InWindow chain.runtime.now option.validFrom option.validUntil
  | _ => True

/-- A swap is inside the validity window of its option, or another check refuses it. -/
def Guarded (config : Config AccountId) (chain : Chain AccountId) : Action AccountId → Prop
  | .swapNative owner cid amount =>
      ∀ option, chain.runtime.treasuries.swapNativeOptions.lookup (cid, owner) = some option →
        InWindow chain.runtime.now option.validFrom option.validUntil ∨
          ¬ NativeRedeemable config chain.runtime cid owner amount option
  | .swapAsset owner cid amount =>
      ∀ option, chain.runtime.treasuries.swapAssetOptions.lookup (cid, owner) = some option →
        InWindow chain.runtime.now option.validFrom option.validUntil ∨
          ¬ AssetRedeemable config chain.runtime cid owner amount option
  | _ => True

variable {chain : Chain AccountId} {action : Action AccountId}

theorem timely_of_found {Option' : Type} {found : Option Option'}
    {usable inWindow : Option' → Prop} :
    ((∃ option, found = some option ∧ usable option) →
        ∀ option, found = some option → inWindow option) ↔
      ∀ option, found = some option → inWindow option ∨ ¬ usable option := by
  cases found with
  | none => simp
  | some option =>
      simp only [Option.some.injEq, exists_eq_left', forall_eq']
      exact imp_iff_or_not

theorem timely_iff_guarded (config : Config AccountId) (chain : Chain AccountId)
    (action : Action AccountId) : Timely config chain action ↔ Guarded config chain action := by
  cases action with
  | swapNative owner cid amount =>
      simp only [Timely, Guarded, isOk_iff, swapNative_succeeds_iff]
      exact timely_of_found
  | swapAsset owner cid amount =>
      simp only [Timely, Guarded, isOk_iff, swapAsset_succeeds_iff]
      exact timely_of_found
  | _ => exact Iff.rfl

/-! ## After the expiry date -/

/-- The option is the one that is found, and no longer valid. -/
structure Expired {Option' : Type} (validUntil : Option' → Option Nat) (now : Nat)
    (found : Option Option') (option : Option') : Prop where
  stored : found = some option
  past : ∃ latest, validUntil option = some latest ∧ latest < now

abbrev NativeExpired (chain : Chain AccountId) (cid : CommunityIdentifier) (owner : AccountId)
    (option : SwapNativeOption) : Prop :=
  Expired SwapNativeOption.validUntil chain.runtime.now
    (chain.runtime.treasuries.swapNativeOptions.lookup (cid, owner)) option

abbrev AssetExpired (chain : Chain AccountId) (cid : CommunityIdentifier) (owner : AccountId)
    (option : SwapAssetOption) : Prop :=
  Expired SwapAssetOption.validUntil chain.runtime.now
    (chain.runtime.treasuries.swapAssetOptions.lookup (cid, owner)) option

namespace Expired

variable {Option' Result : Type} {validFrom validUntil : Option' → Option Nat} {now : Nat}
  {found : Option Option'} {option : Option'}

private theorem not_inWindow (h : Expired validUntil now found option) :
    ¬ InWindow now (validFrom option) (validUntil option) := by
  obtain ⟨latest, hlatest, hlt⟩ := h.past
  intro hwindow
  exact Nat.not_le_of_lt hlt (hwindow.2 latest hlatest)

/-- A timely swap of an expired option is refused. -/
theorem refused (h : Expired validUntil now found option) {result : Except DispatchError Result}
    (htimely : result.isOk = true →
      ∀ option, found = some option → InWindow now (validFrom option) (validUntil option)) :
    ∃ e, result = .error e := by
  cases result with
  | error e => exact ⟨e, rfl⟩
  | ok _ => exact absurd (htimely rfl option h.stored) h.not_inWindow

theorem later (h : Expired validUntil now found option) {now' : Nat} {found' : Option Option'}
    (hkept : found' = some option) (hnow : now ≤ now') :
    Expired validUntil now' found' option := by
  obtain ⟨latest, hlatest, hlt⟩ := h.past
  exact ⟨hkept, latest, hlatest, hlt.trans_le hnow⟩

end Expired

/-- An expired option pays nothing and stays as it is, as long as all swaps are timely. -/
theorem nativeExpired_step {option : SwapNativeOption} (h : NativeExpired chain cid owner option)
    (htimely : Timely config chain action)
    (hreplaces : ¬ Replaces config (Democracy.issuesNativeOption cid owner) chain action) :
    nativePayout config cid owner chain action = 0 ∧
      NativeExpired (chain.step config action) cid owner option := by
  have hunpaid : nativePayout config cid owner chain action = 0 := by
    cases action with
    | swapNative sender cid' amount =>
        by_cases hkey : cid' = cid ∧ sender = owner
        · obtain ⟨rfl, rfl⟩ := hkey
          obtain ⟨e, hrefused⟩ := h.refused htimely
          simp only [nativePayout, hrefused]
        · simp only [nativePayout, if_neg hkey]
          split <;> rfl
    | _ => rfl
  have hkept := (step_nativeOption h.stored hreplaces).2
  rw [hunpaid] at hkept
  exact ⟨hunpaid, h.later hkept (chain.democracyStep config action).now_le⟩

theorem assetExpired_step {option : SwapAssetOption} (h : AssetExpired chain cid owner option)
    (htimely : Timely config chain action)
    (hreplaces : ¬ Replaces config (Democracy.issuesAssetOption cid owner) chain action) :
    assetPayout config cid owner chain action = 0 ∧
      AssetExpired (chain.step config action) cid owner option := by
  have hunpaid : assetPayout config cid owner chain action = 0 := by
    cases action with
    | swapAsset sender cid' amount =>
        by_cases hkey : cid' = cid ∧ sender = owner
        · obtain ⟨rfl, rfl⟩ := hkey
          obtain ⟨e, hrefused⟩ := h.refused htimely
          simp only [assetPayout, hrefused]
        · simp only [assetPayout, if_neg hkey]
          split <;> rfl
    | _ => rfl
  have hkept := (step_assetOption h.stored hreplaces).2
  rw [hunpaid] at hkept
  exact ⟨hunpaid, h.later hkept (chain.democracyStep config action).now_le⟩

/-- What timely steps keep unpaid stays unpaid in a run of guarded swaps. -/
theorem unpaid_run {ok : Chain AccountId → Action AccountId → Prop}
    {payout : Chain AccountId → Action AccountId → Nat} {Unpaid : Chain AccountId → Prop}
    (hstep : ∀ chain action, Unpaid chain → Timely config chain action → ok chain action →
      payout chain action = 0 ∧ Unpaid (chain.step config action))
    {actions : List (Action AccountId)} (h : Unpaid chain)
    (hguarded : Machine.Along (Chain.step config) (Guarded config) chain actions)
    (hok : Machine.Along (Chain.step config) ok chain actions) :
    Machine.tally (Chain.step config) payout chain actions = 0 ∧
      Unpaid (chain.run config actions) := by
  have hrun := Machine.tally_invariant (n := 0)
    (fun chain action => Guarded config chain action ∧ ok chain action) payout
    (fun chain paid => paid = 0 ∧ Unpaid chain) ?_ ⟨rfl, h⟩ (hguarded.and hok)
  · rwa [Nat.zero_add] at hrun
  · rintro chain action _ ⟨rfl, hunpaid⟩ ⟨hguarded, hok⟩
    obtain ⟨hnothing, hnext⟩ :=
      hstep chain action hunpaid ((timely_iff_guarded config chain action).2 hguarded) hok
    exact ⟨by rw [hnothing], hnext⟩

/--
A swap is inside the validity window of its option just if it is inside or another check refuses
it. Where that holds of the swaps of a run, an expired option that is not replaced pays nothing,
and stays as it is.
-/
theorem swaps_timely_iff_guarded (config : Config AccountId) (chain : Chain AccountId)
    (actions : List (Action AccountId)) :
    (∀ action, Timely config chain action ↔ Guarded config chain action) ∧
    (Machine.Along (Chain.step config) (Timely config) chain actions ↔
      Machine.Along (Chain.step config) (Guarded config) chain actions) ∧
    (Machine.Along (Chain.step config) (Guarded config) chain actions →
      ∀ cid owner,
        (∀ option, NativeExpired chain cid owner option →
          Machine.Along (Chain.step config)
            (fun chain action =>
              ¬ Replaces config (Democracy.issuesNativeOption cid owner) chain action)
            chain actions →
          Machine.tally (Chain.step config) (nativePayout config cid owner) chain actions = 0 ∧
            NativeExpired (chain.run config actions) cid owner option) ∧
        ∀ option, AssetExpired chain cid owner option →
          Machine.Along (Chain.step config)
            (fun chain action =>
              ¬ Replaces config (Democracy.issuesAssetOption cid owner) chain action)
            chain actions →
          Machine.tally (Chain.step config) (assetPayout config cid owner) chain actions = 0 ∧
            AssetExpired (chain.run config actions) cid owner option) := by
  refine ⟨timely_iff_guarded config chain, ?_, ?_⟩
  · constructor
    · exact Machine.Along.mono fun chain action => (timely_iff_guarded config chain action).1
    · exact Machine.Along.mono fun chain action => (timely_iff_guarded config chain action).2
  · intro hguarded cid owner
    constructor
    · intro option hexpired hkept
      exact unpaid_run (fun _ _ => nativeExpired_step) hexpired hguarded hkept
    · intro option hexpired hkept
      exact unpaid_run (fun _ _ => assetExpired_step) hexpired hguarded hkept

end Treasuries

/-! ## An option that has expired, and one that is not valid yet -/

namespace Demo

/-- It is day 50. -/
def lateStart : Chain Nat := { swapStart with runtime := { swapStart.runtime with
  now := 50
  treasuries := { swapStart.runtime.treasuries with
    swapNativeOptions := (∅ : StorageMap _ _).insert (islanders, 1)
      { nativeOption with validUntil := some 49 }
    swapAssetOptions := (∅ : StorageMap _ _).insert (islanders, 1)
      { assetOption with validFrom := some 51 } } } }

end Demo

namespace Treasuries

/-- Both options pay, the one after its latest and the other before its first time of validity. -/
theorem expired_option_pays :
    NativeExpired Demo.lateStart Demo.islanders 1 { Demo.nativeOption with validUntil := some 49 } ∧
      Machine.tally (Chain.step Demo.swapConfig)
        (nativePayout Demo.swapConfig Demo.islanders 1) Demo.lateStart Demo.swaps = 13 ∧
      ¬ Timely Demo.swapConfig Demo.lateStart (.swapNative 1 Demo.islanders 5) ∧
      ¬ Timely Demo.swapConfig Demo.lateStart (.swapAsset 1 Demo.islanders 3) := by
  refine ⟨⟨rfl, 49, rfl, by decide⟩, by decide +kernel, ?_, ?_⟩
  · intro htimely
    exact absurd (htimely (by decide +kernel) _ rfl) (by decide)
  · intro htimely
    exact absurd (htimely (by decide +kernel) _ rfl) (by decide)

/-- More than the allowance is asked for, and nothing paid. -/
theorem swaps_timely_iff_guarded_refused :
    let actions : List (Action Nat) :=
      [.swapNative 1 Demo.islanders 21, .swapNative 1 Demo.islanders 21]
    Machine.tally (Chain.step Demo.swapConfig) (nativePayout Demo.swapConfig Demo.islanders 1)
        Demo.lateStart actions = 0 ∧
      NativeExpired (Demo.lateStart.run Demo.swapConfig actions) Demo.islanders 1
        { Demo.nativeOption with validUntil := some 49 } :=
  (((swaps_timely_iff_guarded Demo.swapConfig Demo.lateStart _).2.2 (by
    have hrefused (chain : Chain Nat)
        (hchain : chain.runtime.treasuries.swapNativeOptions.lookup (Demo.islanders, 1) =
          some { Demo.nativeOption with validUntil := some 49 }) :
        Guarded Demo.swapConfig chain (.swapNative 1 Demo.islanders 21) := by
      intro option hoption
      rw [hchain, Option.some.injEq] at hoption
      subst hoption
      exact Or.inr fun hredeemable => absurd hredeemable.allowance (by decide)
    exact ⟨hrefused _ rfl, hrefused _ (by decide +kernel), trivial⟩)) Demo.islanders 1).1 _
      ⟨rfl, 49, rfl, by decide⟩ (by decide +kernel)

end Treasuries

end Encointer
