import Encointer.Balances.Conservation
import Encointer.Treasuries.SwapOptions

/-!
# Accounting of swap options

The owner of a swap option can exercise it in parts. What is paid out comes out
of the allowance, for community currency at the rate of the option, until a
proposal replaces the option.
-/

namespace Encointer.Treasuries

open Checked Dispatch

variable {AccountId : Type} [DecidableEq AccountId] {config : Config AccountId}
  {s s' : Runtime AccountId} {cid : CommunityIdentifier} {owner sender : AccountId}
  {amount rate : Nat} {treasuries : TreasuriesStorage AccountId}
  {balances : BalancesStorage AccountId}

/-! ## Transfers outside the repository -/

/-- Exactly the amount moves, from funds that are there. -/
structure Moves {κ : Type} [DecidableEq κ] (funds funds' : StorageMap κ Nat) (source dest : κ)
    (amount : Nat) : Prop where
  covered : amount ≤ funds.get source 0
  self : source = dest → ∀ k, funds'.get k 0 = funds.get k 0
  debited : source ≠ dest → funds'.get source 0 + amount = funds.get source 0
  credited : source ≠ dest → funds'.get dest 0 = funds.get dest 0 + amount
  others : ∀ k, k ≠ source → k ≠ dest → funds'.get k 0 = funds.get k 0

/-- Transfers of native tokens and other assets move the stated amount, or they fail. -/
structure ExactTransfers (config : Config AccountId) : Prop where
  currency : ∀ funds funds' source dest amount,
    config.currencyTransfer funds source dest amount = some funds' →
      Moves funds funds' source dest amount
  paymaster : ∀ funds funds' source dest assetId amount,
    config.paymasterTransfer funds source dest assetId amount = some funds' →
      Moves funds funds' (source, assetId) (dest, assetId) amount

/-! ## The community currency of a swap -/

/-- The owner gives the community currency away, and it is burned or goes to the treasury. -/
structure Sold (config : Config AccountId) (blockNumber : Nat) (b b' : BalancesStorage AccountId)
    (cid : CommunityIdentifier) (owner : AccountId) (ccAmount : Nat) (doBurn : Bool) : Prop where
  burned : doBurn = true →
    Balances.ChangesEntry b b' cid owner ∧
    Balances.balance config blockNumber b' cid owner + ccAmount =
      Balances.balance config blockNumber b cid owner ∧
    (ccAmount ≤ Balances.totalIssuance config blockNumber b cid →
      Balances.totalIssuance config blockNumber b' cid + ccAmount =
        Balances.totalIssuance config blockNumber b cid)
  moved : doBurn = false → owner ≠ config.treasuryAccount (some cid) →
    Balances.ChangesEntries b b' cid owner (config.treasuryAccount (some cid)) ∧
    Balances.balance config blockNumber b' cid owner + ccAmount +
        Balances.discarded config blockNumber b cid owner (config.treasuryAccount (some cid))
          ccAmount = Balances.balance config blockNumber b cid owner ∧
    (Balances.balance config blockNumber b cid (config.treasuryAccount (some cid)) + ccAmount <
        2 ^ 128 →
      Balances.balance config blockNumber b' cid (config.treasuryAccount (some cid)) =
        Balances.balance config blockNumber b cid (config.treasuryAccount (some cid)) + ccAmount)

theorem ccAmount_eq_ok {ccAmount : Nat} :
    Treasuries.ccAmount amount rate = .ok ccAmount ↔
      amount < 2 ^ 64 ∧ amount * rate < 2 ^ 128 ∧ ccAmount = amount * rate := by
  simp only [Treasuries.ccAmount, bind_eq_ok, okOr_eq_ok, ensure_eq_ok, ok_inj, toU64_eq_some,
    exists_const]
  grind

/-- The source is debited exactly, but for the dust, and the target credited if that fits. -/
theorem doTransfer_debits {blockNumber : Nat} {b : BalancesStorage AccountId}
    {source dest : AccountId} {u : Unit} (hne : source ≠ dest)
    (h : (Balances.doTransfer config blockNumber b cid source dest amount).2 = .ok u) :
    let b' := (Balances.doTransfer config blockNumber b cid source dest amount).1
    Balances.balance config blockNumber b' cid source + amount +
        Balances.discarded config blockNumber b cid source dest amount =
      Balances.balance config blockNumber b cid source ∧
    (Balances.balance config blockNumber b cid dest + amount < 2 ^ 128 →
      Balances.balance config blockNumber b' cid dest =
        Balances.balance config blockNumber b cid dest + amount) := by
  intro b'
  have htransfers := Balances.doTransfer_transfers config blockNumber b cid source dest amount
  rw [h] at htransfers
  have hb' : (Balances.doTransfer config blockNumber b cid source dest amount).1 = b' := rfl
  unfold Balances.discarded
  rw [hb'] at htransfers ⊢
  clear_value b'
  cases htransfers with
  | nothing zero =>
      rw [if_neg fun hgone => by simp [hgone.1] at hgone, zero]
      exact ⟨rfl, fun _ => rfl⟩
  | self same exists_source => exact absurd same hne
  | other different exists_source covered =>
      have hsource := Balances.moved_lookup config blockNumber b cid source dest amount (cid, source)
      have hdest := Balances.moved_lookup config blockNumber b cid source dest amount (cid, dest)
      rw [if_neg (by simp [hne.symm]), Balances.movedEntries, StorageMap.lookup_insert_eq,
        if_pos rfl] at hdest
      refine ⟨?_, fun hfits => by rw [Balances.balance_of_lookup hdest, Nat.min_eq_left (by omega)]⟩
      by_cases hlow : Balances.balance config blockNumber b cid source - amount <
          config.existentialDeposit
      · rw [if_pos ⟨rfl, hlow⟩] at hsource
        rw [if_pos ⟨exists_source, StorageMap.contains_eq_false.2 hsource⟩,
          Balances.balance_of_lookup_none hsource]
        omega
      · rw [if_neg fun h => hlow h.2, Balances.movedEntries, StorageMap.lookup_insert_eq,
          if_neg (by simp [hne]), StorageMap.lookup_insert_eq, if_pos rfl] at hsource
        have hkept : StorageMap.contains
            (Balances.moved config blockNumber b cid source dest amount).balance (cid, source) =
              true := by
          rw [StorageMap.contains, hsource, Option.isSome_some]
        rw [if_neg (by simp [hkept]), Balances.balance_of_lookup hsource]
        omega

theorem payCommunityCurrency_sold {ccAmount : Nat} {doBurn : Bool}
    (h : payCommunityCurrency config s cid owner ccAmount doBurn = .ok balances) :
    Sold config s.blockNumber s.balances balances cid owner ccAmount doBurn := by
  cases doBurn with
  | true =>
      simp only [payCommunityCurrency, if_true, transactional_eq_ok] at h
      obtain ⟨⟨u, hburned⟩, rfl⟩ := h
      refine ⟨fun _ => ⟨Balances.burn_changes .., ?_⟩, by simp⟩
      have hburn := Balances.burn_eq config s.blockNumber s.balances cid owner ccAmount
      by_cases hlow : Balances.balance config s.blockNumber s.balances cid owner < ccAmount
      · rw [if_pos hlow] at hburn
        rw [hburn] at hburned
        cases hburned
      · rw [if_neg hlow] at hburn
        have howner : (Balances.burn config s.blockNumber s.balances cid owner
            ccAmount).1.balance.lookup (cid, owner) = some
              ⟨Balances.balance config s.blockNumber s.balances cid owner - ccAmount,
                s.blockNumber⟩ := by
          rw [hburn]
          exact (StorageMap.lookup_insert_eq _ _ _ _).trans (if_pos rfl)
        have htotal : (Balances.burn config s.blockNumber s.balances cid owner
            ccAmount).1.totalIssuance.lookup cid = some
              ⟨Balances.totalIssuance config s.blockNumber s.balances cid - ccAmount,
                s.blockNumber⟩ := by
          rw [hburn]
          exact (StorageMap.lookup_insert_eq _ _ _ _).trans (if_pos rfl)
        rw [Balances.balance_of_lookup howner, Balances.totalIssuance_of_lookup htotal]
        exact ⟨by omega, fun hle => by omega⟩
  | false =>
      simp only [payCommunityCurrency, Bool.false_eq_true, if_false, transactional_eq_ok] at h
      obtain ⟨⟨u, hmoved⟩, rfl⟩ := h
      refine ⟨by simp, fun _ hne => ⟨Balances.doTransfer_changes .., ?_⟩⟩
      exact doTransfer_debits hne hmoved

/-! ## One swap -/

theorem swapNative_spec (h : swapNative config s sender cid amount = .ok (treasuries, balances)) :
    ∃ option rate nativeBalances,
      s.treasuries.swapNativeOptions.lookup (cid, sender) = some option ∧
      amount ≤ option.nativeAllowance ∧
      amount ≤ s.treasuries.nativeBalances.get (config.treasuryAccount (some cid)) 0 -
        config.minimumBalance ∧
      option.rate = some rate ∧ amount < 2 ^ 64 ∧ amount * rate < 2 ^ 128 ∧
      payCommunityCurrency config s cid sender (amount * rate) option.doBurn = .ok balances ∧
      config.currencyTransfer s.treasuries.nativeBalances (config.treasuryAccount (some cid)) sender
        amount = some nativeBalances ∧
      treasuries = { s.treasuries with
        swapNativeOptions := s.treasuries.swapNativeOptions.insert (cid, sender)
          { option with nativeAllowance := option.nativeAllowance - amount }
        nativeBalances := nativeBalances } := by
  simp only [swapNative, doSpendNative, doIssueSwapNativeOption, bind_eq_ok, okOr_eq_ok,
    ensure_eq_ok, ok_inj, exists_const, Prod.mk.injEq, ccAmount_eq_ok] at h
  obtain ⟨option, hoption, hallowance, hfunds, rate, hrate, _, ⟨hamount, hproduct, rfl⟩, _, hpay, _,
    ⟨nativeBalances, htransfer, rfl⟩, rfl, rfl⟩ := h
  exact ⟨option, rate, nativeBalances, hoption, hallowance, hfunds, hrate, hamount, hproduct, hpay,
    htransfer, rfl⟩

theorem swapAsset_spec (h : swapAsset config s sender cid amount = .ok (treasuries, balances)) :
    ∃ option rate assetBalances,
      s.treasuries.swapAssetOptions.lookup (cid, sender) = some option ∧
      amount ≤ option.assetAllowance ∧
      option.rate = some rate ∧ amount < 2 ^ 64 ∧ amount * rate < 2 ^ 128 ∧
      payCommunityCurrency config s cid sender (amount * rate) option.doBurn = .ok balances ∧
      config.paymasterTransfer s.treasuries.assetBalances (config.treasuryAccount (some cid)) sender
        option.assetId amount = some assetBalances ∧
      treasuries = { s.treasuries with
        swapAssetOptions := s.treasuries.swapAssetOptions.insert (cid, sender)
          { option with assetAllowance := option.assetAllowance - amount }
        assetBalances := assetBalances } := by
  simp only [swapAsset, doSpendAsset, doIssueSwapAssetOption, bind_eq_ok, okOr_eq_ok,
    ensure_eq_ok, ok_inj, exists_const, Prod.mk.injEq, ccAmount_eq_ok] at h
  obtain ⟨option, hoption, hallowance, rate, hrate, _, ⟨hamount, hproduct, rfl⟩, _, hpay, _,
    ⟨assetBalances, htransfer, rfl⟩, rfl, rfl⟩ := h
  exact ⟨option, rate, assetBalances, hoption, hallowance, hrate, hamount, hproduct, hpay, htransfer,
    rfl⟩

/-- What a successful swap of an option for native tokens does to the funds. -/
structure NativeSwapped (config : Config AccountId) (s s' : Runtime AccountId)
    (cid : CommunityIdentifier) (owner : AccountId) (amount : Nat) (option : SwapNativeOption) :
    Prop where
  sold : ∃ rate, option.rate = some rate ∧ amount < 2 ^ 64 ∧ amount * rate < 2 ^ 128 ∧
    Sold config s.blockNumber s.balances s'.balances cid owner (amount * rate) option.doBurn
  paid : Moves s.treasuries.nativeBalances s'.treasuries.nativeBalances
    (config.treasuryAccount (some cid)) owner amount
  minimum : min (s.treasuries.nativeBalances.get (config.treasuryAccount (some cid)) 0)
      config.minimumBalance ≤
    s'.treasuries.nativeBalances.get (config.treasuryAccount (some cid)) 0

/-- What a successful swap of an option for another asset does to the funds. -/
structure AssetSwapped (config : Config AccountId) (s s' : Runtime AccountId)
    (cid : CommunityIdentifier) (owner : AccountId) (amount : Nat) (option : SwapAssetOption) :
    Prop where
  sold : ∃ rate, option.rate = some rate ∧ amount < 2 ^ 64 ∧ amount * rate < 2 ^ 128 ∧
    Sold config s.blockNumber s.balances s'.balances cid owner (amount * rate) option.doBurn
  paid : Moves s.treasuries.assetBalances s'.treasuries.assetBalances
    (config.treasuryAccount (some cid), option.assetId) (owner, option.assetId) amount

theorem swapNative_swapped (hexact : ExactTransfers config) {option : SwapNativeOption}
    (hoption : s.treasuries.swapNativeOptions.lookup (cid, owner) = some option)
    (h : swapNative config s owner cid amount = .ok (treasuries, balances)) :
    NativeSwapped config s { s with treasuries := treasuries, balances := balances } cid owner
      amount option := by
  obtain ⟨option', rate, nativeBalances, hoption', -, hfunds, hrate, hamount, hproduct, hpay,
    htransfer, rfl⟩ := swapNative_spec h
  rw [hoption, Option.some.injEq] at hoption'
  subst hoption'
  have hmoves := hexact.currency _ _ _ _ _ htransfer
  refine ⟨⟨rate, hrate, hamount, hproduct, payCommunityCurrency_sold hpay⟩, hmoves, ?_⟩
  by_cases hself : config.treasuryAccount (some cid) = owner
  · exact (Nat.min_le_left _ _).trans (hmoves.self hself _).ge
  · have hdebited := hmoves.debited hself
    simp only
    omega

theorem swapAsset_swapped (hexact : ExactTransfers config) {option : SwapAssetOption}
    (hoption : s.treasuries.swapAssetOptions.lookup (cid, owner) = some option)
    (h : swapAsset config s owner cid amount = .ok (treasuries, balances)) :
    AssetSwapped config s { s with treasuries := treasuries, balances := balances } cid owner
      amount option := by
  obtain ⟨option', rate, assetBalances, hoption', -, hrate, hamount, hproduct, hpay, htransfer,
    rfl⟩ := swapAsset_spec h
  rw [hoption, Option.some.injEq] at hoption'
  subst hoption'
  exact ⟨⟨rate, hrate, hamount, hproduct, payCommunityCurrency_sold hpay⟩,
    hexact.paymaster _ _ _ _ _ _ htransfer⟩

/-! ## Runs -/

def nativePayout (config : Config AccountId) (cid : CommunityIdentifier) (owner : AccountId)
    (chain : Chain AccountId) (action : Action AccountId) : Nat :=
  match action with
  | .swapNative sender cid' amount =>
      match swapNative config chain.runtime sender cid' amount with
      | .ok _ => if cid' = cid ∧ sender = owner then amount else 0
      | .error _ => 0
  | _ => 0

def assetPayout (config : Config AccountId) (cid : CommunityIdentifier) (owner : AccountId)
    (chain : Chain AccountId) (action : Action AccountId) : Nat :=
  match action with
  | .swapAsset sender cid' amount =>
      match swapAsset config chain.runtime sender cid' amount with
      | .ok _ => if cid' = cid ∧ sender = owner then amount else 0
      | .error _ => 0
  | _ => 0

def Replaces (config : Config AccountId) (issues : ProposalAction AccountId → Bool)
    (chain : Chain AccountId) (action : Action AccountId) : Prop :=
  Ceremonies.StartsAssigning config chain action ∧
    Democracy.Queues chain.runtime.democracy issues

instance (config : Config AccountId) (issues : ProposalAction AccountId → Bool)
    (chain : Chain AccountId) (action : Action AccountId) :
    Decidable (Replaces config issues chain action) :=
  inferInstanceAs (Decidable (_ ∧ _))

variable {chain : Chain AccountId} {action : Action AccountId}

theorem step_swapNative (config : Config AccountId) (chain : Chain AccountId) (sender : AccountId)
    (cid : CommunityIdentifier) (amount : Nat) :
    (chain.step config (.swapNative sender cid amount)).runtime =
      match swapNative config chain.runtime sender cid amount with
      | .ok (treasuries, balances) =>
          { chain.runtime with treasuries := treasuries, balances := balances }
      | .error _ => chain.runtime := by
  cases hswap : swapNative config chain.runtime sender cid amount with
  | error e => simp [Chain.step, dispatch, dispatchQuiet, hswap, bind, Except.bind]
  | ok result => simp [Chain.step, dispatch, dispatchQuiet, hswap, bind, Except.bind]

theorem step_swapAsset (config : Config AccountId) (chain : Chain AccountId) (sender : AccountId)
    (cid : CommunityIdentifier) (amount : Nat) :
    (chain.step config (.swapAsset sender cid amount)).runtime =
      match swapAsset config chain.runtime sender cid amount with
      | .ok (treasuries, balances) =>
          { chain.runtime with treasuries := treasuries, balances := balances }
      | .error _ => chain.runtime := by
  cases hswap : swapAsset config chain.runtime sender cid amount with
  | error e => simp [Chain.step, dispatch, dispatchQuiet, hswap, bind, Except.bind]
  | ok result => simp [Chain.step, dispatch, dispatchQuiet, hswap, bind, Except.bind]

/-- Other actions replace options, or leave them. -/
theorem step_view {β : Type} (view : TreasuriesStorage AccountId → β)
    {issues : ProposalAction AccountId → Bool}
    (hview : ∀ (s : Runtime AccountId) action, issues action = false →
      view (Democracy.enactAction config s action).1.treasuries = view s.treasuries)
    (hsame : ∀ t t' : TreasuriesStorage AccountId, SameOptions t t' → view t' = view t)
    (hswap : ¬ IsSwap action) (hreplaces : ¬ Replaces config issues chain action) :
    view (chain.step config action).runtime.treasuries = view chain.runtime.treasuries := by
  rcases chain.step_outcome config action with ⟨observations, -, houtcome⟩ | hstep
  · rcases houtcome.options with ⟨h, -⟩ | ⟨newPhase, henters⟩ | hoptions
    · exact absurd h hswap
    · refine henters.view hview ?_
      rintro rfl hqueues
      refine hreplaces ⟨⟨?_, henters.phase⟩, hqueues⟩
      intro hassigning
      have hnext := henters.scheduler.2.1
      rw [hassigning] at hnext
      cases hnext
    · exact hsame _ _ hoptions
  · rw [hstep]

/-- A swap leaves the options of the other type. -/
theorem step_swapAsset_nativeOptions (config : Config AccountId) (chain : Chain AccountId)
    (sender : AccountId) (cid : CommunityIdentifier) (amount : Nat) :
    (chain.step config (.swapAsset sender cid amount)).runtime.treasuries.swapNativeOptions =
      chain.runtime.treasuries.swapNativeOptions := by
  rw [step_swapAsset]
  cases hresult : swapAsset config chain.runtime sender cid amount with
  | error e => rfl
  | ok result =>
      obtain ⟨treasuries, balances⟩ := result
      obtain ⟨option, rate, assetBalances, -, -, -, -, -, -, -, rfl⟩ := swapAsset_spec hresult
      rfl

theorem step_swapNative_assetOptions (config : Config AccountId) (chain : Chain AccountId)
    (sender : AccountId) (cid : CommunityIdentifier) (amount : Nat) :
    (chain.step config (.swapNative sender cid amount)).runtime.treasuries.swapAssetOptions =
      chain.runtime.treasuries.swapAssetOptions := by
  rw [step_swapNative]
  cases hresult : swapNative config chain.runtime sender cid amount with
  | error e => rfl
  | ok result =>
      obtain ⟨treasuries, balances⟩ := result
      obtain ⟨option, rate, nativeBalances, -, -, -, -, -, -, -, -, rfl⟩ := swapNative_spec hresult
      rfl

/--
The option of the owner, after an option that covers the amount was lowered by it. Options with the
same terms differ in their allowance only.
-/
theorem lookup_lowered {Option' : Type}
    {options : StorageMap (CommunityIdentifier × AccountId) Option'} (terms : Nat → Option')
    (allowance : Option' → Nat) (lower : Option' → Option') {found : Option'} {n : Nat}
    {cid' : CommunityIdentifier} (h : options.lookup (cid, owner) = some (terms n))
    (hfound : options.lookup (cid', sender) = some found) (hcovered : amount ≤ allowance found)
    (hallowance : allowance (terms n) = n) (hlower : lower (terms n) = terms (n - amount)) :
    let paid := if cid' = cid ∧ sender = owner then amount else 0
    paid ≤ n ∧ (options.insert (cid', sender) (lower found)).lookup (cid, owner) =
      some (terms (n - paid)) := by
  intro paid
  simp only [StorageMap.lookup_insert_eq, Prod.mk.injEq]
  by_cases hkey : cid' = cid ∧ sender = owner
  · have hpaid : paid = amount := if_pos hkey
    obtain ⟨rfl, rfl⟩ := hkey
    rw [h, Option.some.injEq] at hfound
    subst hfound
    rw [hallowance] at hcovered
    rw [hpaid, if_pos ⟨rfl, rfl⟩, hlower]
    exact ⟨hcovered, rfl⟩
  · have hpaid : paid = 0 := if_neg hkey
    have hother : ¬ (cid = cid' ∧ owner = sender) := fun hk => hkey ⟨hk.1.symm, hk.2.symm⟩
    rw [hpaid, if_neg hother]
    exact ⟨Nat.zero_le n, h⟩

/-- A step takes its payout from the allowance and leaves the terms of the option. -/
theorem step_nativeOption {option : SwapNativeOption} {n : Nat}
    (h : chain.runtime.treasuries.swapNativeOptions.lookup (cid, owner) =
      some { option with nativeAllowance := n })
    (hreplaces : ¬ Replaces config (Democracy.issuesNativeOption cid owner) chain action) :
    nativePayout config cid owner chain action ≤ n ∧
      (chain.step config action).runtime.treasuries.swapNativeOptions.lookup (cid, owner) =
        some { option with nativeAllowance := n - nativePayout config cid owner chain action } := by
  by_cases hswap : IsSwap action
  · cases action with
    | swapNative sender cid' amount =>
        rw [step_swapNative, nativePayout]
        cases hresult : swapNative config chain.runtime sender cid' amount with
        | error e => exact ⟨Nat.zero_le n, h⟩
        | ok result =>
            obtain ⟨treasuries, balances⟩ := result
            obtain ⟨option', rate, nativeBalances, hoption, hallowance, -, -, -, -, -, -, rfl⟩ :=
              swapNative_spec hresult
            exact lookup_lowered (fun n => { option with nativeAllowance := n })
              SwapNativeOption.nativeAllowance
              (fun o => { o with nativeAllowance := o.nativeAllowance - amount })
              h hoption hallowance rfl rfl
    | swapAsset sender cid' amount =>
        rw [step_swapAsset_nativeOptions]
        exact ⟨Nat.zero_le n, h⟩
    | _ => cases hswap
  · have hnone : nativePayout config cid owner chain action = 0 := by
      cases action with
      | swapNative => exact absurd trivial hswap
      | _ => rfl
    have hkept := step_view (fun t => t.swapNativeOptions.lookup (cid, owner))
      (fun s action => (Democracy.enactAction_options cid owner s action).1)
      (fun t t' hsame => by simp only [hsame.native]) hswap hreplaces
    rw [hnone]
    exact ⟨Nat.zero_le n, hkept.trans h⟩

theorem step_assetOption {option : SwapAssetOption} {n : Nat}
    (h : chain.runtime.treasuries.swapAssetOptions.lookup (cid, owner) =
      some { option with assetAllowance := n })
    (hreplaces : ¬ Replaces config (Democracy.issuesAssetOption cid owner) chain action) :
    assetPayout config cid owner chain action ≤ n ∧
      (chain.step config action).runtime.treasuries.swapAssetOptions.lookup (cid, owner) =
        some { option with assetAllowance := n - assetPayout config cid owner chain action } := by
  by_cases hswap : IsSwap action
  · cases action with
    | swapAsset sender cid' amount =>
        rw [step_swapAsset, assetPayout]
        cases hresult : swapAsset config chain.runtime sender cid' amount with
        | error e => exact ⟨Nat.zero_le n, h⟩
        | ok result =>
            obtain ⟨treasuries, balances⟩ := result
            obtain ⟨option', rate, assetBalances, hoption, hallowance, -, -, -, -, -, rfl⟩ :=
              swapAsset_spec hresult
            exact lookup_lowered (fun n => { option with assetAllowance := n })
              SwapAssetOption.assetAllowance
              (fun o => { o with assetAllowance := o.assetAllowance - amount })
              h hoption hallowance rfl rfl
    | swapNative sender cid' amount =>
        rw [step_swapNative_assetOptions]
        exact ⟨Nat.zero_le n, h⟩
    | _ => cases hswap
  · have hnone : assetPayout config cid owner chain action = 0 := by
      cases action with
      | swapAsset => exact absurd trivial hswap
      | _ => rfl
    have hkept := step_view (fun t => t.swapAssetOptions.lookup (cid, owner))
      (fun s action => (Democracy.enactAction_options cid owner s action).2)
      (fun t t' hsame => by simp only [hsame.asset]) hswap hreplaces
    rw [hnone]
    exact ⟨Nat.zero_le n, hkept.trans h⟩

/--
As long as an option is not replaced, what is paid out to its owner comes out of its allowance. A
swap of the owner pays the amount from the treasury, which stays above its minimum balance, for
community currency at the rate of the option.
-/
theorem swap_option_accounting (config : Config AccountId) (hexact : ExactTransfers config)
    (chain : Chain AccountId) (cid : CommunityIdentifier) (owner : AccountId)
    (actions : List (Action AccountId)) :
    (∀ option, chain.runtime.treasuries.swapNativeOptions.lookup (cid, owner) = some option →
      Machine.Along (Chain.step config)
        (fun chain action => ¬ Replaces config (Democracy.issuesNativeOption cid owner) chain action)
        chain actions →
      let paid := Machine.tally (Chain.step config) (nativePayout config cid owner) chain actions
      paid ≤ option.nativeAllowance ∧
      (chain.run config actions).runtime.treasuries.swapNativeOptions.lookup (cid, owner) =
        some { option with nativeAllowance := option.nativeAllowance - paid } ∧
      Machine.Along (Chain.step config)
        (fun chain action => ∀ amount, action = .swapNative owner cid amount →
          ∀ result, swapNative config chain.runtime owner cid amount = .ok result →
            NativeSwapped config chain.runtime (chain.step config action).runtime cid owner amount
              option)
        chain actions) ∧
    ∀ option, chain.runtime.treasuries.swapAssetOptions.lookup (cid, owner) = some option →
      Machine.Along (Chain.step config)
        (fun chain action => ¬ Replaces config (Democracy.issuesAssetOption cid owner) chain action)
        chain actions →
      let paid := Machine.tally (Chain.step config) (assetPayout config cid owner) chain actions
      paid ≤ option.assetAllowance ∧
      (chain.run config actions).runtime.treasuries.swapAssetOptions.lookup (cid, owner) =
        some { option with assetAllowance := option.assetAllowance - paid } ∧
      Machine.Along (Chain.step config)
        (fun chain action => ∀ amount, action = .swapAsset owner cid amount →
          ∀ result, swapAsset config chain.runtime owner cid amount = .ok result →
            AssetSwapped config chain.runtime (chain.step config action).runtime cid owner amount
              option)
        chain actions := by
  constructor
  · intro option hoption hkept paid
    apply Machine.tally_spends _ (nativePayout config cid owner)
      (fun (chain : Chain AccountId) n =>
        chain.runtime.treasuries.swapNativeOptions.lookup (cid, owner) =
          some { option with nativeAllowance := n })
    · intro chain action n h hreplaces
      exact step_nativeOption h hreplaces
    · rintro chain _ n hn amount rfl ⟨treasuries, balances⟩ hswap
      have hswapped := swapNative_swapped hexact hn hswap
      rw [step_swapNative, hswap]
      exact ⟨hswapped.sold, hswapped.paid, hswapped.minimum⟩
    · exact hoption
    · exact hkept
  · intro option hoption hkept paid
    apply Machine.tally_spends _ (assetPayout config cid owner)
      (fun (chain : Chain AccountId) n =>
        chain.runtime.treasuries.swapAssetOptions.lookup (cid, owner) =
          some { option with assetAllowance := n })
    · intro chain action n h hreplaces
      exact step_assetOption h hreplaces
    · rintro chain _ n hn amount rfl ⟨treasuries, balances⟩ hswap
      have hswapped := swapAsset_swapped hexact hn hswap
      rw [step_swapAsset, hswap]
      exact ⟨hswapped.sold, hswapped.paid⟩
    · exact hoption
    · exact hkept

end Encointer.Treasuries

namespace Encointer

/-! ## Exercising options in parts -/

namespace Demo

def payExactly {κ : Type} [DecidableEq κ] (funds : StorageMap κ Nat) (source dest : κ)
    (amount : Nat) : Option (StorageMap κ Nat) :=
  if amount ≤ funds.get source 0 then
    let funds := funds.insert source (funds.get source 0 - amount)
    some (funds.insert dest (funds.get dest 0 + amount))
  else
    none

theorem payExactly_moves {κ : Type} [DecidableEq κ] {funds funds' : StorageMap κ Nat}
    {source dest : κ} {amount : Nat} (h : payExactly funds source dest amount = some funds') :
    Treasuries.Moves funds funds' source dest amount := by
  unfold payExactly at h
  split at h
  · rename_i hcovered
    rw [Option.some.injEq] at h
    subst h
    refine ⟨hcovered, ?_, ?_, ?_, ?_⟩
    · rintro rfl k
      by_cases hk : k = source
      · simp [StorageMap.get_insert, hk]
        omega
      · simp [StorageMap.get_insert, hk]
    · intro hne
      simp [StorageMap.get_insert, hne]
      omega
    · intro hne
      simp [StorageMap.get_insert, hne.symm]
    · intro k hsource hdest
      simp [StorageMap.get_insert, hsource, hdest]
  · cases h

/-- Payments of the treasury are exact. -/
def swapConfig : Config Nat := { runtimeConfig with
  currencyTransfer := payExactly
  paymasterTransfer := fun funds source dest assetId amount =>
    payExactly funds (source, assetId) (dest, assetId) amount }

theorem swapConfig_exact : Treasuries.ExactTransfers swapConfig where
  currency := fun _ _ _ _ _ h => payExactly_moves h
  paymaster := fun _ _ _ _ _ _ h => payExactly_moves h

/-- Twenty native tokens, at half a unit of the community currency each. -/
def nativeOption : SwapNativeOption := ⟨islanders, 20, some (2 ^ 63), true, none, none⟩

def assetOption : SwapAssetOption := ⟨islanders, [], 10, some (2 ^ 64), false, none, none⟩

/-- The owner has fifteen units of the community currency. -/
def swapStart : Chain Nat := { start with runtime := { start.runtime with
  balances := (Balances.issue swapConfig 0 start.runtime.balances islanders 1 (15 * 2 ^ 64)).1
  treasuries :=
    { swapNativeOptions := (∅ : StorageMap _ _).insert (islanders, 1) nativeOption
      swapAssetOptions := (∅ : StorageMap _ _).insert (islanders, 1) assetOption
      nativeBalances := (∅ : StorageMap _ _).insert 1000 100
      namedReserves := ∅
      assetBalances := (∅ : StorageMap _ _).insert (1000, []) 100 } } }

/-- The third swap asks for more than is left, and the last one for more than the owner has. -/
def swaps : List (Action Nat) :=
  [.swapNative 1 islanders 5, .swapAsset 1 islanders 3, .swapNative 1 islanders 16,
    .swapNative 1 islanders 8, .swapAsset 1 islanders 7]

end Demo

theorem Treasuries.swap_option_accounting_parts :
    let s := (Demo.swapStart.run Demo.swapConfig Demo.swaps).runtime
    Machine.tally (Chain.step Demo.swapConfig)
        (Treasuries.nativePayout Demo.swapConfig Demo.islanders 1) Demo.swapStart Demo.swaps = 13 ∧
      s.treasuries.swapNativeOptions.lookup (Demo.islanders, 1) =
        some { Demo.nativeOption with
          nativeAllowance := 20 - Machine.tally (Chain.step Demo.swapConfig)
            (Treasuries.nativePayout Demo.swapConfig Demo.islanders 1) Demo.swapStart Demo.swaps } ∧
      s.treasuries.swapAssetOptions.lookup (Demo.islanders, 1) =
        some { Demo.assetOption with
          assetAllowance := 10 - Machine.tally (Chain.step Demo.swapConfig)
            (Treasuries.assetPayout Demo.swapConfig Demo.islanders 1) Demo.swapStart Demo.swaps } :=
  ⟨by decide +kernel,
    ((Treasuries.swap_option_accounting Demo.swapConfig Demo.swapConfig_exact Demo.swapStart
      Demo.islanders 1 Demo.swaps).1 Demo.nativeOption (by decide +kernel) (by decide +kernel)).2.1,
    ((Treasuries.swap_option_accounting Demo.swapConfig Demo.swapConfig_exact Demo.swapStart
      Demo.islanders 1 Demo.swaps).2 Demo.assetOption (by decide +kernel) (by decide +kernel)).2.1⟩

end Encointer
