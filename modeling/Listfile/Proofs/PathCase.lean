import Listfile.Proofs.CanonicalPaths

/-!
The lower case of a path, which is that of its components: a slash ends every word, so no letter is mapped with
regard to what stands behind it.
-/

namespace Listfile

namespace Text

theorem meetsCased_append_slash (cs rest : List Char) : meetsCased (cs ++ '/' :: rest) = meetsCased cs := by
  have ignorable : inRanges caseIgnorable '/'.toNat = false := by decide +kernel
  have uncased : inRanges cased '/'.toNat = false := by decide +kernel
  unfold meetsCased
  rw [List.find?_append]
  cases cs.find? fun c => !inRanges caseIgnorable c.toNat with
  | some c => rfl
  | none =>
    rw [Option.none_or, List.find?_cons_of_pos (by rw [ignorable]; rfl)]
    exact uncased

theorem lowerFrom_behind_slash (read before cs : List Char) :
    lowerFrom (read ++ '/' :: before) cs = lowerFrom read cs := by
  induction cs generalizing read with
  | nil => rfl
  | cons c rest ih =>
    rw [lowerFrom, lowerFrom, isFinalSigma, isFinalSigma, meetsCased_append_slash, ← List.cons_append, ih]

theorem lowerFrom_append_slash (before cs rest : List Char) :
    lowerFrom before (cs ++ '/' :: rest) = lowerFrom before cs ++ '/' :: lowerFrom [] rest := by
  induction cs generalizing before with
  | nil =>
    have behind := lowerFrom_behind_slash [] before rest
    have slash : lowerChar '/' = ['/'] := by decide +kernel
    simp only [List.nil_append] at behind
    simp [lowerFrom, behind, slash]
  | cons c cs ih =>
    rw [List.cons_append, lowerFrom, lowerFrom, ih, isFinalSigma, isFinalSigma, meetsCased_append_slash,
      List.append_assoc]

def Alike (a b : List Char) : Prop := lowerFrom [] a = lowerFrom [] b

theorem sameIgnoringCase_iff {a b : String} : sameIgnoringCase a b = true ↔ Alike a.toList b.toList := by
  rw [sameIgnoringCase, beq_iff_eq, lower, lower, String.ofList_inj, Alike]

theorem lowerFrom_joined (components : List Path.Component) :
    lowerFrom [] (Path.joined components) = Path.joined (components.map (lowerFrom [])) := by
  induction components with
  | nil => rfl
  | cons first rest ih =>
    by_cases last : rest = []
    · simp [last, Path.joined]
    · rw [Path.joined_cons first last, lowerFrom_append_slash, ih, List.map_cons,
        Path.joined_cons _ (by simp [last])]

theorem lowerChar_ne_nil (c : Char) : lowerChar c ≠ [] := by
  have filled : ∀ entry ∈ lowerSequences, entry.2 ≠ [] := by decide +kernel
  unfold lowerChar mapCase
  split
  next => simp
  next =>
    dsimp only
    split
    next codes found =>
      obtain ⟨before, after, table, -⟩ := List.lookup_eq_some_iff.mp found
      have member : (c.toNat, codes) ∈ lowerSequences := by rw [table]; simp
      simpa using filled _ member
    next => split <;> simp

theorem lowerFrom_eq_nil {before cs : List Char} (empty : lowerFrom before cs = []) : cs = [] := by
  cases cs with
  | nil => rfl
  | cons c rest =>
    rw [lowerFrom] at empty
    have head := (List.append_eq_nil_iff.mp empty).1
    split at head
    · simp at head
    · exact absurd head (lowerChar_ne_nil c)

theorem lowerFrom_ascii {c : Char} (ascii : c.toNat < 128) (before rest : List Char) :
    lowerFrom before (c :: rest) = c.toLower :: lowerFrom (c :: before) rest := by
  have other : c ≠ 'Σ' := by
    rintro rfl
    simp at ascii
  rw [lowerFrom, if_neg other, lowerChar, if_pos ascii]
  rfl

theorem ofNat_eq {n : Nat} {c : Char} (same : Char.ofNat n = c) (other : c ≠ '\x00') : n = c.toNat := by
  by_cases valid : n.isValidChar
  · rw [← same, Char.ofNat, dif_pos valid]
    rfl
  · rw [Char.ofNat, dif_neg valid] at same
    exact absurd same.symm other

theorem toNat_lt_of_isAlpha {c : Char} (alpha : c.isAlpha = true) : c.toNat < 128 := by
  have upper : c.isUpper = decide ('A'.val ≤ c.val ∧ c.val ≤ 'Z'.val) := rfl
  have lower : c.isLower = (decide ('a'.val ≤ c.val) && decide (c.val ≤ 'z'.val)) := rfl
  have either : c.isAlpha = (c.isUpper || c.isLower) := rfl
  have value : c.toNat = c.val.toNat := rfl
  simp only [either, upper, lower, Bool.or_eq_true, Bool.and_eq_true, decide_eq_true_eq,
    UInt32.le_iff_toNat_le] at alpha
  rcases alpha with ⟨-, top⟩ | ⟨-, top⟩ <;> simp at top <;> omega

end Text

end Listfile
