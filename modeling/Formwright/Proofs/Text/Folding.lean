import Formwright.Proofs.Text.Tidy
import Formwright.Text.Folding

/-!
# Caseless comparison of letters

A character that compares as an ASCII letter, in either case, is a word character. Beyond ASCII
those are the long s and the sign for Kelvin, which stand in runs of their own.
-/
namespace Formwright.Text

namespace CaseRun

/-- A run that leads from beyond the ASCII characters to none of them, or else leads from nothing
but a word character. -/
def KeepsWords (run : CaseRun) : Prop :=
  run.last < 0x80 ∨ 0x80 ≤ run.first + run.shift ∨
    (run.first = run.last ∧ inRanges wordRanges run.first = true)

instance (run : CaseRun) : Decidable run.KeepsWords :=
  inferInstanceAs (Decidable (_ ∨ _ ∨ _))

end CaseRun

/-- The runs of the case folding lead to ASCII characters from word characters only. -/
theorem foldPages_keepWords : ∀ page ∈ foldPages, ∀ run ∈ page.2, run.KeepsWords := by
  decide +kernel

/-- What folds to an ASCII letter is a word character. -/
theorem isWord_of_isAlpha_foldCase {c : Char} (alpha : (foldCase c).isAlpha = true) :
    isWord c = true := by
  rw [foldCase] at alpha
  split at alpha
  · next ascii =>
    exact @forall_ascii (fun c => c.toLower.isAlpha = true → isWord c = true) (by decide +kernel)
      c ascii alpha
  · next other =>
    have image : foldPages.apply c.toNat < 0x80 := by
      by_cases valid : (foldPages.apply c.toNat).isValidChar
      · rw [Char.ofNat, dif_pos valid] at alpha
        exact toNat_lt_of_isAlphanum (Bool.or_eq_true_iff.mpr (.inl alpha))
      · rw [Char.ofNat, dif_neg valid] at alpha
        cases alpha
    rw [isWord, hasProperty, if_neg other]
    rw [CasePages.apply] at image
    split at image
    · next runs found =>
      rcases CaseRun.apply_eq_or_exists runs c.toNat with same | ⟨run, listed, covered, led⟩
      · exact absurd (same ▸ image) other
      · have keeps := foldPages_keepWords _ (mem_of_lookup_eq_some found) run listed
        simp only [CaseRun.covers, Bool.and_eq_true, decide_eq_true_eq] at covered
        rcases keeps with low | high | ⟨single, word⟩
        · omega
        · omega
        · have same : c.toNat = run.first := by omega
          rwa [same]
    · exact absurd image other

end Formwright.Text
