import Encointer.ReputationRings.Nesting

/-!
# Attendance

Five scans count, for each account with a key, the verified attendances among the
last five ceremonies. The keys that are eligible for a level are then those of the
accounts with at least as many attendances.
-/

namespace Encointer

namespace ReputationRings

variable {AccountId : Type} [DecidableEq AccountId] {config : RingsConfig AccountId}
  {origin s : RingsChain AccountId} {cc : CommunityCeremony} {scanned level : Nat}
  {account : AccountId} {attendance : List (AccountId × Nat)}

/-! ## Verified attendances -/

def verifiedAt (s : RingsChain AccountId) (cid : CommunityIdentifier) (account : AccountId)
    (cindex : Nat) : Bool :=
  (Ceremonies.participantReputation s.chain.runtime.ceremonies (cid, cindex) account).isVerified

/-- The verified attendances among the ceremony and those before it, `scanned` altogether. -/
def attendances (s : RingsChain AccountId) (cc : CommunityCeremony) (scanned : Nat)
    (account : AccountId) : Nat :=
  ((Finset.Icc 1 cc.2).filter fun cindex =>
    cc.2 < cindex + scanned ∧ verifiedAt s cc.1 account cindex = true).card

theorem attendances_zero (s : RingsChain AccountId) (cc : CommunityCeremony)
    (account : AccountId) : attendances s cc 0 account = 0 := by
  unfold attendances
  rw [Finset.card_eq_zero, Finset.filter_eq_empty_iff]
  intro cindex hmem hattended
  rw [Finset.mem_Icc] at hmem
  omega

theorem attendances_succ (s : RingsChain AccountId) (cc : CommunityCeremony) (scanned : Nat)
    (account : AccountId) :
    attendances s cc (scanned + 1) account = attendances s cc scanned account +
      if 0 < cc.2 - scanned ∧ verifiedAt s cc.1 account (cc.2 - scanned) = true then 1 else 0 := by
  unfold attendances
  split
  · rename_i hnew
    have hnot : cc.2 - scanned ∉ (Finset.Icc 1 cc.2).filter fun cindex =>
        cc.2 < cindex + scanned ∧ verifiedAt s cc.1 account cindex = true := by
      intro hmem
      have hlt := (Finset.mem_filter.1 hmem).2.1
      omega
    rw [← Finset.card_insert_of_notMem hnot]
    congr 1
    ext cindex
    rw [Finset.mem_insert, Finset.mem_filter, Finset.mem_filter, Finset.mem_Icc]
    constructor
    · intro h
      by_cases hlast : cindex = cc.2 - scanned
      · exact Or.inl hlast
      · exact Or.inr ⟨h.1, by omega, h.2.2⟩
    · intro h
      rcases h with rfl | h
      · exact ⟨by omega, by omega, hnew.2⟩
      · exact ⟨h.1, by omega, h.2.2⟩
  · rename_i hnone
    refine Eq.trans (congrArg Finset.card ?_) (Nat.add_zero _).symm
    apply Finset.filter_congr
    intro cindex hmem
    rw [Finset.mem_Icc] at hmem
    constructor
    · intro h
      refine ⟨?_, h.2⟩
      by_contra hlast
      have hcindex : cindex = cc.2 - scanned := by omega
      rw [hcindex] at hmem h
      exact hnone ⟨by omega, h.2⟩
    · intro h
      exact ⟨by omega, h.2⟩

theorem attendances_le (s : RingsChain AccountId) (cc : CommunityCeremony) (scanned : Nat)
    (account : AccountId) : attendances s cc scanned account ≤ scanned := by
  induction scanned with
  | zero => rw [attendances_zero]
  | succ scanned ih =>
      rw [attendances_succ]
      split <;> omega

/-! ## Counting -/

theorem lookup_countAttendance (account : AccountId) (attendance : List (AccountId × Nat))
    (a : AccountId) :
    (countAttendance account attendance).lookup a =
      if a = account then some (min ((attendance.lookup account).getD 0 + 1) 255)
      else attendance.lookup a := by
  induction attendance with
  | nil =>
      by_cases ha : a = account
      · simp [countAttendance, ha]
      · have hbeq : (a == account) = false := by simpa using ha
        simp [countAttendance, List.lookup_cons, hbeq, ha]
  | cons entry rest ih =>
      obtain ⟨b, n⟩ := entry
      unfold countAttendance
      by_cases hb : b = account
      · rw [if_pos hb, hb]
        by_cases ha : a = account
        · simp [ha]
        · have hbeq : (a == account) = false := by simpa using ha
          simp [List.lookup_cons, hbeq, ha]
      · have hother : (account == b) = false := by simpa using Ne.symm hb
        rw [if_neg hb, List.lookup_cons, List.lookup_cons, List.lookup_cons, ih, hother]
        by_cases ha : a = account
        · simp [ha, hother]
        · simp [ha]

private theorem countAttendance_nodup (hnodup : (attendance.map Prod.fst).Nodup) :
    ((countAttendance account attendance).map Prod.fst).Nodup := by
  have haccounts (attendance : List (AccountId × Nat)) (a : AccountId) :
      a ∈ (countAttendance account attendance).map Prod.fst →
        a = account ∨ a ∈ attendance.map Prod.fst := by
    intro hmem
    obtain ⟨⟨a, n⟩, hentry, rfl⟩ := List.mem_map.1 hmem
    rcases mem_countAttendance hentry with hkept | ⟨rfl, -⟩
    · exact Or.inr (List.mem_map.2 ⟨_, hkept, rfl⟩)
    · exact Or.inl rfl
  induction attendance with
  | nil => exact List.nodup_singleton account
  | cons entry rest ih =>
      obtain ⟨b, n⟩ := entry
      rw [List.map_cons, List.nodup_cons] at hnodup
      unfold countAttendance
      by_cases hb : b = account
      · rw [if_pos hb, List.map_cons, List.nodup_cons]
        exact hnodup
      · rw [if_neg hb, List.map_cons, List.nodup_cons]
        refine ⟨?_, ih hnodup.2⟩
        intro hmem
        rcases haccounts rest b hmem with heq | hrest
        · exact hb heq
        · exact hnodup.1 hrest

theorem countAttendances_nodup {keys : List (AccountId × BandersnatchPublicKey)}
    {runtime : Runtime AccountId} (hnodup : (attendance.map Prod.fst).Nodup) :
    ((countAttendances runtime cc keys attendance).map Prod.fst).Nodup := by
  induction keys generalizing attendance with
  | nil => exact hnodup
  | cons entry keys ih =>
      unfold countAttendances
      split
      · exact ih (countAttendance_nodup hnodup)
      · exact ih hnodup

/-- A scan counts every account once, if it has a key and a verified reputation. -/
theorem lookup_countAttendances {keys : List (AccountId × BandersnatchPublicKey)}
    (hkeys : (keys.map Prod.fst).Nodup) (attendance : List (AccountId × Nat)) (a : AccountId) :
    (countAttendances s.chain.runtime cc keys attendance).lookup a =
      if a ∈ keys.map Prod.fst ∧ verifiedAt s cc.1 a cc.2 = true then
        some (min ((attendance.lookup a).getD 0 + 1) 255)
      else attendance.lookup a := by
  induction keys generalizing attendance with
  | nil => simp [countAttendances]
  | cons entry keys ih =>
      obtain ⟨b, key⟩ := entry
      rw [List.map_cons, List.nodup_cons] at hkeys
      have hverified : (Ceremonies.participantReputation s.chain.runtime.ceremonies cc
          b).isVerified = verifiedAt s cc.1 b cc.2 := rfl
      unfold countAttendances
      rw [hverified]
      simp only [List.map_cons, List.mem_cons]
      by_cases hb : a = b
      · subst hb
        by_cases hv : verifiedAt s cc.1 a cc.2 = true
        · rw [if_pos hv, ih hkeys.2, if_neg fun h => hkeys.1 h.1, lookup_countAttendance,
            if_pos rfl, if_pos ⟨Or.inl rfl, hv⟩]
        · rw [if_neg hv, ih hkeys.2, if_neg fun h => hv h.2, if_neg fun h => hv h.2]
      · have hmem : (a = b ∨ a ∈ keys.map Prod.fst) ↔ a ∈ keys.map Prod.fst :=
          or_iff_right hb
        simp only [hmem]
        by_cases hv : verifiedAt s cc.1 b cc.2 = true
        · rw [if_pos hv, ih hkeys.2, lookup_countAttendance, if_neg hb]
        · rw [if_neg hv, ih hkeys.2]

/-- The keys and the reputations for a ceremony are those of `origin`. -/
structure Unchanged (origin : RingsChain AccountId) (cc : CommunityCeremony)
    (s : RingsChain AccountId) : Prop where
  keys : ∀ account, s.rings.bandersnatchKeys.lookup account =
    origin.rings.bandersnatchKeys.lookup account
  verified : ∀ account cindex, cindex ≤ cc.2 → cc.2 < cindex + maxReputationLevels →
    verifiedAt s cc.1 account cindex = verifiedAt origin cc.1 account cindex

theorem Unchanged.refl (s : RingsChain AccountId) (cc : CommunityCeremony) : Unchanged s cc s :=
  ⟨fun _ => rfl, fun _ _ _ _ => rfl⟩

theorem Unchanged.mem_keys (h : Unchanged origin cc s) (account : AccountId) :
    account ∈ s.rings.bandersnatchKeys.entries.map Prod.fst ↔
      origin.rings.bandersnatchKeys.contains account = true := by
  rw [← List.mem_toFinset, StorageMap.contains_eq_true, ← h.keys]
  exact StorageMap.mem_support

/-- The attendance list has the accounts with a key and an attendance, with their number. -/
structure Counted (origin : RingsChain AccountId) (cc : CommunityCeremony) (scanned : Nat)
    (attendance : List (AccountId × Nat)) : Prop where
  nodup : (attendance.map Prod.fst).Nodup
  lookup : ∀ account, attendance.lookup account =
    if origin.rings.bandersnatchKeys.contains account = true ∧
      0 < attendances origin cc scanned account then
        some (attendances origin cc scanned account)
    else none

namespace Counted

theorem nil (origin : RingsChain AccountId) (cc : CommunityCeremony) :
    Counted origin cc 0 [] := by
  refine ⟨List.nodup_nil, ?_⟩
  intro account
  rw [attendances_zero, if_neg fun h => Nat.lt_irrefl 0 h.2]
  rfl

theorem perm (h : Counted origin cc scanned attendance) {sorted : List (AccountId × Nat)}
    (hperm : sorted.Perm attendance) : Counted origin cc scanned sorted := by
  have hnodup := (hperm.map Prod.fst).nodup_iff.2 h.nodup
  refine ⟨hnodup, ?_⟩
  intro account
  rw [StorageMap.lookup_perm hperm hnodup, h.lookup]

theorem skip (h : Counted origin cc scanned attendance) (hzero : cc.2 - scanned = 0) :
    Counted origin cc (scanned + 1) attendance := by
  refine ⟨h.nodup, ?_⟩
  intro account
  have hsame : attendances origin cc (scanned + 1) account =
      attendances origin cc scanned account := by
    rw [attendances_succ, if_neg]
    · rfl
    · intro hnew
      omega
  rw [hsame, h.lookup]

theorem scan (h : Counted origin cc scanned attendance) (hsame : Unchanged origin cc s)
    (hscanned : scanned < maxReputationLevels) (hindex : 0 < cc.2 - scanned) :
    Counted origin cc (scanned + 1)
      (countAttendances s.chain.runtime (cc.1, cc.2 - scanned)
        s.rings.bandersnatchKeys.entries attendance) := by
  refine ⟨countAttendances_nodup h.nodup, ?_⟩
  intro account
  have hverified := hsame.verified account (cc.2 - scanned) (Nat.sub_le _ _) (by omega)
  have hle := attendances_le origin cc scanned account
  have hsmall : scanned < 255 := hscanned.trans (by decide)
  rw [lookup_countAttendances s.rings.bandersnatchKeys.nodupKeys, h.lookup]
  simp only [hsame.mem_keys, hverified, attendances_succ, hindex, true_and]
  by_cases hkey : origin.rings.bandersnatchKeys.contains account = true
  · by_cases hnew : verifiedAt origin cc.1 account (cc.2 - scanned) = true
    · by_cases hpos : 0 < attendances origin cc scanned account
      · simp [hkey, hnew, hpos]
        omega
      · have hnone : attendances origin cc scanned account = 0 := by omega
        simp [hkey, hnew, hnone]
    · simp [hkey, hnew]
  · simp [hkey]

theorem mem_iff (h : Counted origin cc scanned attendance) {n : Nat} :
    (account, n) ∈ attendance ↔ origin.rings.bandersnatchKeys.contains account = true ∧
      0 < attendances origin cc scanned account ∧ n = attendances origin cc scanned account := by
  have hlookup : attendance.lookup account = some n ↔ (account, n) ∈ attendance :=
    StorageMap.lookup_eq_some_iff (m := ⟨attendance, h.nodup⟩)
  rw [← hlookup, h.lookup]
  split
  · rename_i hcounted
    rw [Option.some.injEq]
    exact ⟨fun heq => ⟨hcounted.1, hcounted.2, heq.symm⟩, fun heq => heq.2.2.symm⟩
  · rename_i hnone
    constructor
    · intro heq
      cases heq
    · intro heq
      exact absurd ⟨heq.1, heq.2.1⟩ hnone

end Counted

/-! ## Eligible keys -/

/-- The keys of the accounts with at least `level` attendances in the last five ceremonies. -/
def levelKeys (s : RingsChain AccountId) (cc : CommunityCeremony) (level : Nat) :
    List BandersnatchPublicKey :=
  (s.rings.bandersnatchKeys.entries.filter fun entry =>
    level ≤ attendances s cc maxReputationLevels entry.1).map Prod.snd

private theorem map_snd_eq_filterMap (keys : StorageMap AccountId BandersnatchPublicKey)
    {entries : List (AccountId × BandersnatchPublicKey)} (hsub : entries ⊆ keys.entries) :
    entries.map Prod.snd = (entries.map Prod.fst).filterMap keys.lookup := by
  rw [List.filterMap_map, ← List.filterMap_eq_map]
  apply List.filterMap_congr
  intro entry hmem
  exact (StorageMap.lookup_eq_some_iff.2 (hsub hmem)).symm

private theorem eligibleKeys_eq_filterMap (keys : StorageMap AccountId BandersnatchPublicKey)
    (attendance : List (AccountId × Nat)) (level : Nat) :
    eligibleKeys keys attendance level =
      ((attendance.filter fun entry => level ≤ entry.2).map Prod.fst).filterMap keys.lookup := by
  rw [List.filterMap_map, List.filterMap_filter]
  simp only [eligibleKeys, decide_eq_true_eq, Function.comp_apply]

/-- Each account with enough attendances gives its key, once. -/
theorem Counted.eligibleKeys_perm (h : Counted origin cc maxReputationLevels attendance)
    (hsame : Unchanged origin cc s) (hlevel : 0 < level) :
    (eligibleKeys s.rings.bandersnatchKeys attendance level).Perm (levelKeys origin cc level) := by
  have hlookup : s.rings.bandersnatchKeys.lookup = origin.rings.bandersnatchKeys.lookup :=
    funext hsame.keys
  rw [eligibleKeys_eq_filterMap, levelKeys,
    map_snd_eq_filterMap origin.rings.bandersnatchKeys (List.filter_subset_self _), hlookup]
  apply List.Perm.filterMap
  rw [List.perm_ext_iff_of_nodup (h.nodup.sublist (List.filter_sublist.map Prod.fst))
    (origin.rings.bandersnatchKeys.nodupKeys.sublist (List.filter_sublist.map Prod.fst))]
  intro account
  rw [List.mem_map, List.mem_map]
  constructor
  · intro hmem
    obtain ⟨⟨account, n⟩, hentry, rfl⟩ := hmem
    obtain ⟨hentry, hle⟩ := List.mem_filter.1 hentry
    obtain ⟨hkey, -, rfl⟩ := h.mem_iff.1 hentry
    obtain ⟨key, hkey⟩ := StorageMap.contains_eq_true.1 hkey
    exact ⟨(account, key), List.mem_filter.2 ⟨StorageMap.lookup_eq_some_iff.1 hkey, hle⟩, rfl⟩
  · intro hmem
    obtain ⟨⟨account, key⟩, hentry, rfl⟩ := hmem
    obtain ⟨hentry, hle⟩ := List.mem_filter.1 hentry
    have hkey := StorageMap.contains_eq_true.2 ⟨key, StorageMap.lookup_eq_some_iff.2 hentry⟩
    have hpos := hlevel.trans_le (of_decide_eq_true hle)
    exact ⟨(account, attendances origin cc maxReputationLevels account),
      List.mem_filter.2 ⟨h.mem_iff.2 ⟨hkey, hpos, rfl⟩, hle⟩, rfl⟩

end ReputationRings

end Encointer
