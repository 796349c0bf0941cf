import Encointer.Library.Checked
import Encointer.Primitives.Bs58Verify

/-!
# Community primitives

Degrees are `I64F64` fixed-point values, represented by their bits; strings are
byte lists.
-/

namespace Encointer

abbrev Degree := Int

abbrev PalletString := List UInt8

structure Location where
  lat : Degree
  lon : Degree
  deriving DecidableEq, Repr

/-- The derived order: by latitude, then by longitude. -/
def Location.lt (a b : Location) : Bool := a.lat < b.lat ∨ (a.lat = b.lat ∧ a.lon < b.lon)

abbrev GeoHash := Vector UInt8 5

/-- The first five characters of a geohash and a checksum of the bootstrappers. -/
structure CommunityIdentifier where
  geohash : Vector UInt8 5
  digest : Vector UInt8 4
  deriving DecidableEq, Repr

/-- The derived order: by the bytes, in order. -/
def CommunityIdentifier.lt (a b : CommunityIdentifier) : Bool :=
  a.geohash.toList ++ a.digest.toList < b.geohash.toList ++ b.digest.toList

/-- `slice::binary_search`: the position of `x`, or where it would be inserted. -/
def binarySearch {α : Type} [DecidableEq α] (lt : α → α → Bool) (xs : List α) (x : α) :
    Except Nat Nat :=
  match xs.findIdx? fun y => y = x with
  | some index => .ok index
  | none => .error (xs.countP fun y => lt y x)

/-! ## Geography -/

def degree : Degree := 2 ^ 64

def maxAbsLatitude : Degree := 78 * degree

def datelineLon : Degree := 180 * degree

/-- Meetups may not be closer to the dateline than this. -/
def datelineDistanceM : Nat := 1000000

/-! ## Metadata -/

inductive CommunityRules where
  | loCo
  | loCoFlex
  | beeDance
  deriving DecidableEq, Repr

structure CommunityMetadata where
  name : PalletString
  symbol : PalletString
  /-- IPFS cid of the assets for community branding. -/
  assets : PalletString
  theme : Option PalletString
  url : Option PalletString
  /-- Public key of the signer of authorized announcements. -/
  announcementSigner : Option (Vector UInt8 32)
  rules : CommunityRules
  deriving DecidableEq, Repr

def validateAscii (bytes : PalletString) : Bool := bytes.all fun c => c ≤ 127

def maxHashSize : Nat := 46

def validateIpfsCid (cid : PalletString) : Bool :=
  cid.length = maxHashSize && (Bs58verify.verify cid).isOk

/-- The checks of `validate`; callers replace its error by one of their own. -/
def CommunityMetadata.validate (metadata : CommunityMetadata) : Bool :=
  validateAscii metadata.name && validateAscii metadata.symbol &&
    validateIpfsCid metadata.assets &&
    metadata.name.length ≤ 20 && metadata.symbol.length = 3 &&
    (match metadata.url with
      | some u => validateAscii u && u.length < 20
      | none => true) &&
    match metadata.theme with
    | some t => validateIpfsCid t
    | none => true

/-- A hash of 46 characters that can be decoded. -/
def IsIpfsCid (cid : PalletString) : Prop :=
  cid.length = maxHashSize ∧
    ∃ text decoded, Utf8.asBytes text = cid ∧ Base58.decode text = .ok decoded

theorem validateIpfsCid_iff (cid : PalletString) : validateIpfsCid cid = true ↔ IsIpfsCid cid := by
  have hverify : (Bs58verify.verify cid).isOk = true ↔ Bs58verify.verify cid = .ok () := by
    cases Bs58verify.verify cid <;> simp [Except.isOk, Except.toBool]
  rw [validateIpfsCid, Bool.and_eq_true, hverify, Bs58verify.verify_eq_ok_iff, decide_eq_true_eq]
  rfl

/-- The files of a metadata that passes its checks can be found. -/
theorem CommunityMetadata.isIpfsCid_of_validate {metadata : CommunityMetadata}
    (h : metadata.validate = true) :
    IsIpfsCid metadata.assets ∧ ∀ theme ∈ metadata.theme, IsIpfsCid theme := by
  simp only [CommunityMetadata.validate, Bool.and_eq_true] at h
  obtain ⟨⟨⟨⟨⟨-, hassets⟩, -⟩, -⟩, -⟩, htheme⟩ := h
  refine ⟨(validateIpfsCid_iff _).1 hassets, ?_⟩
  intro theme hmem
  rw [Option.mem_def.1 hmem] at htheme
  exact (validateIpfsCid_iff _).1 htheme

/-! ## Demurrage -/

/-- An `I64F64`, as bits. -/
abbrev Demurrage := Int

def validateDemurrage (demurrage : Demurrage) : Bool := 0 ≤ demurrage ∧ demurrage ≤ 2 ^ 64

end Encointer
