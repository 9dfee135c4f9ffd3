import TactileSensors.Arith.Nearest
import Mathlib.Data.Rat.Floor
import Mathlib.Tactic.LinearCombination

/-!
# Openings and position registers

The stroke of a gripper against the band of position registers that covers it, both ways. The band runs
from fully open to fully closed, so a wider opening is a lower register.
-/

namespace TactileSensors.Gripper
open Arith

structure DeviceProfile where
  minOpening : ℚ
  maxOpening : ℚ
  openPosition : UInt8
  closedPosition : UInt8

namespace DeviceProfile

def registerPositionRange (profile : DeviceProfile) : ℚ :=
  profile.closedPosition.toNat - profile.openPosition.toNat

def openingRange (profile : DeviceProfile) : ℚ :=
  profile.maxOpening - profile.minOpening

end DeviceProfile

def k2F85 : DeviceProfile := ⟨0, 85 / 1000, 3, 230⟩

def roundedRegister (steps : ℚ) : UInt8 := UInt8.ofInt (lround steps)

def openFraction (opening : ℚ) (profile : DeviceProfile) : ℚ :=
  clamp ((opening - profile.minOpening) / profile.openingRange) 0 1

def closedFraction (value : UInt8) (profile : DeviceProfile) : ℚ :=
  clamp ((value.toNat - profile.openPosition.toNat) / profile.registerPositionRange) 0 1

def openingSteps (opening : ℚ) (profile : DeviceProfile) : ℚ :=
  profile.openPosition.toNat + (1 - openFraction opening profile) * profile.registerPositionRange

def openingToRegister (opening : ℚ) (profile : DeviceProfile) : Option UInt8 :=
  if profile.openingRange ≤ 0 ∨ profile.registerPositionRange ≤ 0 then none
  else some (roundedRegister (openingSteps opening profile))

def openingFromRegister (value : UInt8) (profile : DeviceProfile) : Option ℚ :=
  if profile.registerPositionRange ≤ 0 ∨ profile.openingRange ≤ 0 then none
  else some (profile.minOpening + (1 - closedFraction value profile) * profile.openingRange)

structure DeviceProfile.Covers (profile : DeviceProfile) : Prop where
  band : profile.openPosition < profile.closedPosition
  stroke : profile.minOpening < profile.maxOpening

variable {profile : DeviceProfile}

namespace DeviceProfile.Covers

theorem positions (covers : profile.Covers) :
    (profile.openPosition.toNat : ℚ) < profile.closedPosition.toNat :=
  Nat.cast_lt.mpr (UInt8.lt_iff_toNat_lt.mp covers.band)

theorem band_pos (covers : profile.Covers) : 0 < profile.registerPositionRange :=
  sub_pos.mpr covers.positions

theorem stroke_pos (covers : profile.Covers) : 0 < profile.openingRange :=
  sub_pos.mpr covers.stroke

theorem openingToRegister_eq (covers : profile.Covers) (opening : ℚ) :
    openingToRegister opening profile = some (roundedRegister (openingSteps opening profile)) :=
  if_neg (not_or.mpr ⟨not_le.mpr covers.stroke_pos, not_le.mpr covers.band_pos⟩)

theorem openingFromRegister_eq (covers : profile.Covers) (value : UInt8) :
    openingFromRegister value profile =
      some (profile.minOpening + (1 - closedFraction value profile) * profile.openingRange) :=
  if_neg (not_or.mpr ⟨not_le.mpr covers.band_pos, not_le.mpr covers.stroke_pos⟩)

end DeviceProfile.Covers

def inBand (value : UInt8) (profile : DeviceProfile) : ℕ :=
  clamp value.toNat profile.openPosition.toNat profile.closedPosition.toNat

theorem closedFraction_mul (covers : profile.Covers) (value : UInt8) :
    closedFraction value profile * profile.registerPositionRange =
      inBand value profile - profile.openPosition.toNat := by
  have whole := add_fraction_mul (x := (value.toNat : ℚ)) covers.positions
  have cast : ((inBand value profile : ℕ) : ℚ) =
      clamp (value.toNat : ℚ) profile.openPosition.toNat profile.closedPosition.toNat := by
    simp only [inBand, clamp, Nat.cast_ite, Nat.cast_lt]
  rw [cast, ← whole, add_sub_cancel_left]
  rfl

theorem openFraction_mul (covers : profile.Covers) (opening : ℚ) :
    profile.minOpening + openFraction opening profile * profile.openingRange =
      clamp opening profile.minOpening profile.maxOpening :=
  add_fraction_mul covers.stroke

theorem opening_sub_clamp (covers : profile.Covers) (opening : ℚ) (value : UInt8) :
    profile.minOpening + (1 - closedFraction value profile) * profile.openingRange -
        clamp opening profile.minOpening profile.maxOpening =
      (openingSteps opening profile - inBand value profile) *
        (profile.openingRange / profile.registerPositionRange) := by
  have place := closedFraction_mul covers value
  rw [← openFraction_mul covers, ← mul_div_assoc, eq_div_iff covers.band_pos.ne', openingSteps]
  linear_combination -profile.openingRange * place

theorem openingSteps_mem (covers : profile.Covers) (opening : ℚ) :
    (profile.openPosition.toNat : ℚ) ≤ openingSteps opening profile ∧
      openingSteps opening profile ≤ profile.closedPosition.toNat := by
  have least : 0 ≤ openFraction opening profile := le_clamp zero_le_one
  have most : openFraction opening profile ≤ 1 := clamp_le zero_le_one
  have band := covers.band_pos
  have closed : (profile.closedPosition.toNat : ℚ) =
      profile.openPosition.toNat + 1 * profile.registerPositionRange := by
    rw [one_mul, DeviceProfile.registerPositionRange, add_sub_cancel]
  constructor
  · rw [openingSteps]
    have := mul_nonneg (sub_nonneg.mpr most) band.le
    linarith
  · rw [closed, openingSteps]
    gcongr
    linarith

theorem openingSteps_antitone (covers : profile.Covers) {narrow wide : ℚ} (le : narrow ≤ wide) :
    openingSteps wide profile ≤ openingSteps narrow profile := by
  have band := covers.band_pos
  have stroke := covers.stroke_pos
  have fraction : openFraction narrow profile ≤ openFraction wide profile :=
    clamp_mono zero_le_one (by gcongr)
  rw [openingSteps, openingSteps]
  gcongr

theorem openingSteps_nonneg (covers : profile.Covers) (opening : ℚ) :
    0 ≤ openingSteps opening profile :=
  (Nat.cast_nonneg _).trans (openingSteps_mem covers opening).1

theorem lround_openingSteps_mem (covers : profile.Covers) (opening : ℚ) :
    (profile.openPosition.toNat : ℤ) ≤ lround (openingSteps opening profile) ∧
      lround (openingSteps opening profile) ≤ profile.closedPosition.toNat := by
  obtain ⟨least, most⟩ := openingSteps_mem covers opening
  have low := lround_le_lround (Nat.cast_nonneg _) least
  have high := lround_le_lround (openingSteps_nonneg covers opening) most
  rw [lround_natCast] at low high
  exact ⟨low, high⟩

theorem toNat_roundedRegister (covers : profile.Covers) (opening : ℚ) :
    ((roundedRegister (openingSteps opening profile)).toNat : ℤ) =
      lround (openingSteps opening profile) := by
  obtain ⟨least, most⟩ := lround_openingSteps_mem covers opening
  have byte := profile.closedPosition.toNat_lt
  simp only [roundedRegister, UInt8.ofInt, UInt8.toNat_ofNat']
  omega

theorem inBand_of_mem {value : UInt8} (least : profile.openPosition ≤ value)
    (most : value ≤ profile.closedPosition) : inBand value profile = value.toNat :=
  clamp_of_mem (UInt8.le_iff_toNat_le.mp least) (UInt8.le_iff_toNat_le.mp most)

theorem roundedRegister_mem (covers : profile.Covers) (opening : ℚ) :
    profile.openPosition ≤ roundedRegister (openingSteps opening profile) ∧
      roundedRegister (openingSteps opening profile) ≤ profile.closedPosition := by
  obtain ⟨least, most⟩ := lround_openingSteps_mem covers opening
  rw [← toNat_roundedRegister covers, Nat.cast_le] at least most
  exact ⟨UInt8.le_iff_toNat_le.mpr least, UInt8.le_iff_toNat_le.mpr most⟩

theorem roundedRegister_antitone (covers : profile.Covers) {narrow wide : ℚ} (le : narrow ≤ wide) :
    roundedRegister (openingSteps wide profile) ≤ roundedRegister (openingSteps narrow profile) := by
  have steps := lround_le_lround (openingSteps_nonneg covers wide) (openingSteps_antitone covers le)
  rw [← toNat_roundedRegister covers, ← toNat_roundedRegister covers, Nat.cast_le] at steps
  exact UInt8.le_iff_toNat_le.mpr steps

theorem openingSteps_openingFromRegister (covers : profile.Covers) {value : UInt8}
    (least : profile.openPosition ≤ value) (most : value ≤ profile.closedPosition) :
    openingSteps (profile.minOpening + (1 - closedFraction value profile) * profile.openingRange) profile =
      value.toNat := by
  have stroke := covers.stroke_pos
  have low : 0 ≤ closedFraction value profile := le_clamp zero_le_one
  have high : closedFraction value profile ≤ 1 := clamp_le zero_le_one
  have place := closedFraction_mul covers value
  rw [inBand_of_mem least most] at place
  have fraction : openFraction (profile.minOpening +
      (1 - closedFraction value profile) * profile.openingRange) profile =
        1 - closedFraction value profile := by
    rw [openFraction, add_sub_cancel_left, mul_div_cancel_right₀ _ stroke.ne']
    exact clamp_of_mem (by linarith) (by linarith)
  rw [openingSteps, fraction, sub_sub_cancel, place, add_sub_cancel]

theorem openingToRegister_nearest (profile : DeviceProfile)
    (band : profile.openPosition < profile.closedPosition)
    (stroke : profile.minOpening < profile.maxOpening) :
    (∀ opening, ∃ register, openingToRegister opening profile = some register ∧
      profile.openPosition ≤ register ∧ register ≤ profile.closedPosition ∧
      ∃ reached, openingFromRegister register profile = some reached ∧
        ∀ value other, openingFromRegister value profile = some other →
          |reached - clamp opening profile.minOpening profile.maxOpening| ≤
            |other - clamp opening profile.minOpening profile.maxOpening|) ∧
      (∀ narrow wide atNarrow atWide, narrow ≤ wide → openingToRegister narrow profile = some atNarrow →
        openingToRegister wide profile = some atWide → atWide ≤ atNarrow) ∧
      ∀ value, profile.openPosition ≤ value → value ≤ profile.closedPosition →
        (openingFromRegister value profile).bind (openingToRegister · profile) = some value := by
  have covers : profile.Covers := ⟨band, stroke⟩
  refine ⟨fun opening => ?_, fun narrow wide atNarrow atWide le first second => ?_,
    fun value least most => ?_⟩
  · obtain ⟨least, most⟩ := roundedRegister_mem covers opening
    refine ⟨_, covers.openingToRegister_eq opening, least, most, _,
      covers.openingFromRegister_eq _, fun value other at_value => ?_⟩
    rw [covers.openingFromRegister_eq, Option.some_inj] at at_value
    rw [← at_value, opening_sub_clamp covers, opening_sub_clamp covers, abs_mul, abs_mul,
      inBand_of_mem least most, ← Int.cast_natCast, toNat_roundedRegister covers]
    have nearest := abs_sub_lround_le (openingSteps_nonneg covers opening) (inBand value profile)
    exact mul_le_mul_of_nonneg_right nearest (abs_nonneg _)
  · rw [covers.openingToRegister_eq, Option.some_inj] at first second
    rw [← first, ← second]
    exact roundedRegister_antitone covers le
  · have again := openingSteps_openingFromRegister covers least most
    have register := toNat_roundedRegister covers
      (profile.minOpening + (1 - closedFraction value profile) * profile.openingRange)
    rw [again, lround_natCast, Nat.cast_inj, UInt8.toNat_inj] at register
    rw [covers.openingFromRegister_eq, Option.bind_some, covers.openingToRegister_eq, again, register]

theorem k2F85_nearest :
    k2F85.openPosition < k2F85.closedPosition ∧ k2F85.minOpening < k2F85.maxOpening ∧
      (openingFromRegister 64 k2F85).bind (openingToRegister · k2F85) = some 64 := by
  have band : k2F85.openPosition < k2F85.closedPosition := by decide
  have stroke : k2F85.minOpening < k2F85.maxOpening := by norm_num [k2F85]
  obtain ⟨-, -, again⟩ := openingToRegister_nearest k2F85 band stroke
  exact ⟨band, stroke, again 64 (by decide) (by decide)⟩

end TactileSensors.Gripper
