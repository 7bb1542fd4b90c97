import Mathlib.Data.Prod.Lex
import DriverSurvey.Proofs.Candidates
/-!
# Precedence — the verdict on a Vulkan loader beside the version that it tells

A packed version is a number in which the parts have places, above them a variant that is no part of the version.
Packed versions follow one another as their parts do, the variant first (`le_iff_inOrder`).  So a loader is taken for
usable from version 1.0 on, or for its variant alone (`supported_of_version`).
-/
namespace DriverSurvey
namespace Vulkan

/-! ## Packed versions -/

/-- The three bits above the version, which tell another interface from Vulkan. -/
def variant (version : UInt32) : Nat :=
  version.toNat / Nat.pow 2 29

/-- The number in which a variant and the parts of a version have their places. -/
def packed (variant : Nat) : Nat × Nat × Nat → Nat
  | (major, minor, patch) => ((variant * Nat.pow 2 7 + major) * Nat.pow 2 10 + minor) * Nat.pow 2 12 + patch

/-- The parts fit the places that a packed version has for them. -/
def Fit : Nat × Nat × Nat → Prop
  | (major, minor, patch) => major < Nat.pow 2 7 ∧ minor < Nat.pow 2 10 ∧ patch < Nat.pow 2 12

/-- The parts of a version, to be compared one after the other. -/
def inOrder : Nat × Nat × Nat → Nat ×ₗ Nat ×ₗ Nat
  | (major, minor, patch) => toLex (major, toLex (minor, patch))

/-- **A version is its parts and its variant**, and nothing else. -/
theorem packed_unpack (version : UInt32) : packed (variant version) (unpack version) = version.toNat := by
  simp only [packed, variant, unpack, Nat.pow_eq]
  omega

theorem fit_unpack (version : UInt32) : Fit (unpack version) :=
  ⟨Nat.mod_lt _ (by decide), Nat.mod_lt _ (by decide), Nat.mod_lt _ (by decide)⟩

/-- Numbers follow one another as their quotients, and where these are equal as their remainders. -/
theorem le_iff_div_mod (m a b : Nat) : a ≤ b ↔ a / m < b / m ∨ a / m = b / m ∧ a % m ≤ b % m := by
  have ha := Nat.div_add_mod a m
  have hb := Nat.div_add_mod b m
  constructor
  · intro h
    have hdiv : a / m ≤ b / m := Nat.div_le_div_right h
    rcases Nat.lt_or_eq_of_le hdiv with hlt | heq
    · exact .inl hlt
    · rw [heq] at ha
      exact .inr ⟨heq, by omega⟩
  · rintro (hlt | ⟨heq, hmod⟩)
    · exact Nat.le_of_lt (Nat.lt_of_div_lt_div hlt)
    · rw [heq] at ha
      omega

/-- **Packed versions follow one another as their parts**, the variant before all of them. -/
theorem le_iff_inOrder (version other : UInt32) : version ≤ other ↔
    toLex (variant version, inOrder (unpack version)) ≤ toLex (variant other, inOrder (unpack other)) := by
  have hmajor (n : Nat) : n % 2 ^ 29 / 2 ^ 22 = n / 2 ^ 22 % 2 ^ 7 := by omega
  have hbelow (n : Nat) : n % 2 ^ 29 % 2 ^ 22 = n % 2 ^ 22 := by omega
  have hminor (n : Nat) : n % 2 ^ 22 / 2 ^ 12 = n / 2 ^ 12 % 2 ^ 10 := by omega
  have hpatch (n : Nat) : n % 2 ^ 22 % 2 ^ 12 = n % 2 ^ 12 := by omega
  simp only [inOrder, unpack, variant, Prod.Lex.toLex_le_toLex, Nat.pow_eq]
  -- the variant first, then the major version in what is left, then the minor one
  rw [UInt32.le_iff_toNat_le, le_iff_div_mod (2 ^ 29), le_iff_div_mod (2 ^ 22) (version.toNat % 2 ^ 29),
    le_iff_div_mod (2 ^ 12) (version.toNat % 2 ^ 29 % 2 ^ 22)]
  simp only [hmajor, hbelow, hminor, hpatch]

/-- The order of the parts alone, which leaves the variant out, decides among versions without one. -/
theorem lowestVersion_le_iff (version : UInt32) :
    lowestVersion ≤ version ↔ variant version ≠ 0 ∨ inOrder (1, 0, 0) ≤ inOrder (unpack version) := by
  have hvariant : variant lowestVersion = 0 := rfl
  have hparts : unpack lowestVersion = (1, 0, 0) := rfl
  rw [le_iff_inOrder, Prod.Lex.toLex_le_toLex, hvariant, hparts, Nat.pos_iff_ne_zero]
  constructor
  · rintro (hother | ⟨-, hle⟩)
    · exact .inl hother
    · exact .inr hle
  · rintro (hother | hle)
    · exact .inl hother
    · by_cases hother : variant version = 0
      · exact .inr ⟨hother.symm, hle⟩
      · exact .inl hother

/-- From 1.0.0 on are the versions whose major part is not zero. -/
theorem inOrder_le_iff (parts : Nat × Nat × Nat) : inOrder (1, 0, 0) ≤ inOrder parts ↔ parts.1 ≠ 0 := by
  obtain ⟨major, minor, patch⟩ := parts
  simp only [inOrder, Prod.Lex.toLex_le_toLex]
  omega

end Vulkan

namespace Session

/-! ## The verdict -/

/-- **A loader that succeeds and tells a version is taken for usable from version 1.0.0 on, or if the version has a
variant.**  What is shown of the version are its parts, and with the variant they are all of it; a loader that stores no
version tells zero.  So the verdict and what is shown agree on every version without a variant, and differ just where
one with a variant has zero for its major part. -/
theorem supported_of_version {loaders : LoaderShelf} {before : List String} {library : String} {reply : VersionReply}
    {version : UInt32} (hbefore : ∀ name ∈ before, loaders name = none) (hopen : loaders library = some (some reply))
    (hresult : reply.result = Vulkan.success) (hstored : reply.stored.getD 0 = version) (after : List String)
    (session : Session) :
    let support := (session.perform (.direct loaders) (before ++ library :: after) .vulkan).answer
    ∃ parts, support.triple = some parts ∧
      Vulkan.Fit parts ∧ Vulkan.packed (Vulkan.variant version) parts = version.toNat ∧
      (support.supported = true ↔ Vulkan.variant version ≠ 0 ∨ Vulkan.inOrder (1, 0, 0) ≤ Vulkan.inOrder parts) ∧
      (¬(support.supported = true ↔ Vulkan.inOrder (1, 0, 0) ≤ Vulkan.inOrder parts) ↔
        Vulkan.variant version ≠ 0 ∧ parts.1 = 0) := by
  intro support
  have hsupport : support = Vulkan.verdict library reply := by
    show (session.perform (.direct loaders) (before ++ library :: after) .vulkan).answer = _
    rw [perform_vulkan, Vulkan.check_opens session.driver hbefore hopen]
    rfl
  have htriple : support.triple = some (Vulkan.unpack version) := by
    rw [hsupport]
    simp [Vulkan.Support.triple, Vulkan.verdict, hresult, hstored]
  have hsupported : support.supported = true ↔
      Vulkan.variant version ≠ 0 ∨ Vulkan.inOrder (1, 0, 0) ≤ Vulkan.inOrder (Vulkan.unpack version) := by
    rw [← Vulkan.lowestVersion_le_iff, hsupport]
    simp [Vulkan.verdict, hresult, hstored]
  refine ⟨Vulkan.unpack version, htriple, Vulkan.fit_unpack version, Vulkan.packed_unpack version, hsupported, ?_⟩
  rw [hsupported, Vulkan.inOrder_le_iff]
  tauto

/-- A loader that tells version 0.0.0, with a variant. -/
def variantLoader : LoaderShelf := fun name =>
  if name = "libvulkan.so" then some (some ⟨Vulkan.success, some 0x20000000⟩) else none

theorem supported_of_variant :
    ((∀ name ∈ ["libvulkan.so.1"], variantLoader name = none) ∧
      variantLoader "libvulkan.so" = some (some ⟨Vulkan.success, some 0x20000000⟩)) ∧
    (({} : Session).perform (.direct variantLoader) ["libvulkan.so.1", "libvulkan.so"] .vulkan).answer.supported =
      true := by
  have hbefore : ∀ name ∈ ["libvulkan.so.1"], variantLoader name = none := by decide
  have hopen : variantLoader "libvulkan.so" = some (some ⟨Vulkan.success, some 0x20000000⟩) := by decide
  obtain ⟨parts, -, -, -, hsupported, -⟩ := supported_of_version hbefore hopen rfl rfl [] {}
  exact ⟨⟨hbefore, hopen⟩, hsupported.2 (.inl (by decide))⟩

/-- **The verdict and what is shown of the version can differ**: a loader counts as usable and is shown as 0.0.0. -/
theorem supported_below_lowest :
    let support := (({} : Session).perform (.direct variantLoader) ["libvulkan.so"] .vulkan).answer
    variantLoader "libvulkan.so" = some (some ⟨Vulkan.success, some 0x20000000⟩) ∧
      support.triple = some (0, 0, 0) ∧
      ¬(support.supported = true ↔ Vulkan.inOrder (1, 0, 0) ≤ Vulkan.inOrder (0, 0, 0)) := by
  intro support
  have hsupported : support.supported = true := by decide +kernel
  have hbelow : ¬Vulkan.inOrder (1, 0, 0) ≤ Vulkan.inOrder (0, 0, 0) := by
    rw [Vulkan.inOrder_le_iff]
    exact not_not_intro rfl
  exact ⟨by decide, by decide +kernel, fun h => hbelow (h.1 hsupported)⟩

end Session
end DriverSurvey
