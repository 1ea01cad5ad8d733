import SchemaDdl.Proofs.Text.Joined
import SchemaDdl.Text.LetterCase

/-!
# Lower-casing in context

Lower-casing looks at the surroundings of a sigma, in both directions and over any
number of characters that are passed over.  The look ends at a character that has no
case and is not passed over.  Texts with such a character between them are therefore
lower-cased as if each stood alone (`lowercase_intercalate`).

What lower-casing writes is small (`isSmall_of_mem_lowercaseAfter`), and a text of small
characters stays as it is (`lowercaseAfter_eq_self`): no lower-case form is itself in the
table, which is checked run against run (`LowerRun.avoids`).
-/

namespace SchemaDdl.LetterCase

/-! ## Words end at separators -/

/-- A character at which the look for a cased neighbour ends without one. -/
def IsSeparator (c : Char) : Prop := isCased c = false ∧ isIgnorable c = false

instance : DecidablePred IsSeparator :=
  fun c => inferInstanceAs (Decidable (isCased c = false ∧ isIgnorable c = false))

variable {separator : Char}

theorem leadsToCased_append_cons (hseparator : IsSeparator separator) (text rest : List Char) :
    leadsToCased (text ++ separator :: rest) = leadsToCased text := by
  induction text with
  | nil => simp [leadsToCased, hseparator.1, hseparator.2]
  | cons c text ih =>
      by_cases hc : isIgnorable c = true
      · simpa [leadsToCased, hc] using ih
      · simp [leadsToCased, hc]

/-- What stands behind a separator does not matter before it. -/
theorem lowercaseAfter_append_cons (hseparator : IsSeparator separator)
    (before text rest : List Char) :
    lowercaseAfter before (text ++ separator :: rest) =
      lowercaseAfter before text ++
        lowercaseAfter (text.reverse ++ before) (separator :: rest) := by
  induction text generalizing before with
  | nil => rfl
  | cons c text ih =>
      have hends : endsWord before (text ++ separator :: rest) = endsWord before text := by
        rw [endsWord, endsWord, leadsToCased_append_cons hseparator]
      rw [List.cons_append, lowercaseAfter, lowercaseAfter, hends, ih]
      simp

/-- What stands before a separator does not matter behind it. -/
theorem lowercaseAfter_separator (hseparator : IsSeparator separator)
    (near far text : List Char) :
    lowercaseAfter (near ++ separator :: far) text = lowercaseAfter near text := by
  induction text generalizing near with
  | nil => rfl
  | cons c text ih =>
      have hends : endsWord (near ++ separator :: far) text = endsWord near text := by
        rw [endsWord, endsWord, leadsToCased_append_cons hseparator]
      have hrest : lowercaseAfter (c :: (near ++ separator :: far)) text =
          lowercaseAfter (c :: near) text := ih (c :: near)
      rw [lowercaseAfter, lowercaseAfter, hends, hrest]

theorem lowercase_append_cons (hseparator : IsSeparator separator)
    (hlower : lower separator = [separator]) (text rest : List Char) :
    lowercase (text ++ separator :: rest) = lowercase text ++ separator :: lowercase rest := by
  have hsigma : separator ≠ 'Σ' := by
    rintro rfl
    exact absurd hseparator (by decide)
  have hrest : lowercaseAfter (separator :: text.reverse) rest = lowercaseAfter [] rest :=
    lowercaseAfter_separator hseparator [] text.reverse rest
  rw [lowercase, lowercaseAfter_append_cons hseparator, List.append_nil, lowercaseAfter,
    if_neg hsigma, hlower, hrest]
  rfl

/-- Parts with separators between them are lower-cased one by one. -/
theorem lowercase_intercalate (hseparator : IsSeparator separator)
    (hlower : lower separator = [separator]) (parts : List (List Char)) :
    lowercase ([separator].intercalate parts) = [separator].intercalate (parts.map lowercase) :=
  apply_intercalate rfl (lowercase_append_cons hseparator hlower) parts

/-! ## Lower-case forms are final -/

/-- A character that is its own lower case wherever it stands. -/
def IsSmall (c : Char) : Prop := c ≠ 'Σ' ∧ lower c = [c]

instance : DecidablePred IsSmall :=
  fun c => inferInstanceAs (Decidable (c ≠ 'Σ' ∧ lower c = [c]))

namespace LowerRun

variable {run other : LowerRun} {code : Nat}

theorem covers_iff :
    run.covers code = true ↔
      run.first ≤ code ∧ code ≤ run.last ∧ (code - run.first) % run.step = 0 := by
  simp [covers]

/-- The run of the lower-case forms. -/
def image (run : LowerRun) : LowerRun :=
  ⟨(run.first + run.shift).toNat, (run.last + run.shift).toNat, run.step, 0⟩

/-- Whether the runs have nothing in common: one ends before the other begins, or the
first lies between the characters of the other, which takes every second. -/
def avoids (run other : LowerRun) : Bool :=
  Nat.blt run.last other.first || Nat.blt other.last run.first ||
    ((run.step = 2 || run.first = run.last) && other.step = 2 &&
      (run.first + other.first) % 2 = 1)

theorem covers_image (hstart : 0 ≤ run.first + run.shift) (h : run.covers code = true) :
    run.image.covers (code + run.shift).toNat = true := by
  obtain ⟨hfirst, hlast, hstep⟩ := covers_iff.mp h
  have hdistance : (code + run.shift).toNat - (run.first + run.shift).toNat =
      code - run.first := by omega
  refine covers_iff.mpr ⟨?_, ?_, ?_⟩
  · simp only [image]
    omega
  · simp only [image]
    omega
  · simp only [image, hdistance]
    exact hstep

theorem not_covers_of_avoids (h : run.avoids other = true) (hcode : run.covers code = true) :
    ¬other.covers code = true := by
  intro hcode'
  obtain ⟨hfirst, hlast, hstep⟩ := covers_iff.mp hcode
  obtain ⟨hfirst', hlast', hstep'⟩ := covers_iff.mp hcode'
  simp only [avoids, Bool.or_eq_true, Bool.and_eq_true, decide_eq_true_eq, Nat.blt_eq] at h
  rcases h with (hbefore | hbehind) | ⟨⟨hsame, hother⟩, hparity⟩
  · omega
  · omega
  · have heven : (code - run.first) % 2 = 0 := by
      rcases hsame with htwo | hone
      · rwa [htwo] at hstep
      · omega
    rw [hother] at hstep'
    omega

end LowerRun

/-- The table, and the one character with a lower case that is not in it. -/
def capitalRuns : List LowerRun := ⟨'İ'.toNat, 'İ'.toNat, 1, 0⟩ :: lowerRuns

theorem image_start_nonneg : ∀ run ∈ lowerRuns, 0 ≤ run.first + run.shift := by
  decide +kernel

theorem image_avoids_capitalRuns :
    (lowerRuns.all fun run => capitalRuns.all run.image.avoids) = true := by
  decide +kernel

theorem isSmall_of_not_covers {c : Char} (h : ∀ run ∈ capitalRuns, ¬run.covers c.toNat = true) :
    IsSmall c := by
  obtain ⟨hdotted, hruns⟩ := List.forall_mem_cons.mp h
  have hsingle : c ≠ 'İ' := by
    rintro rfl
    exact hdotted (by simp [LowerRun.covers])
  have hnone : lowerRuns.find? (·.covers c.toNat) = none := List.find?_eq_none.mpr hruns
  constructor
  · rintro rfl
    exact absurd hnone (by decide)
  · rw [lower, if_neg hsingle, hnone]

/-- A number that is no code point stands for the null character. -/
theorem toNat_ofNat_eq_or (n : Nat) : (Char.ofNat n).toNat = n ∨ (Char.ofNat n).toNat = 0 := by
  unfold Char.ofNat
  by_cases hvalid : n.isValidChar
  · rw [dif_pos hvalid]
    exact .inl rfl
  · rw [dif_neg hvalid]
    exact .inr rfl

theorem isSmall_of_mem_lower {c d : Char} (h : d ∈ lower c) : IsSmall d := by
  unfold lower at h
  split at h
  · simp only [List.mem_cons, List.not_mem_nil, or_false] at h
    rcases h with rfl | rfl
    · decide
    · decide
  · next hsingle =>
    split at h
    · next run hfind =>
      obtain rfl := List.mem_singleton.mp h
      have hrun : run ∈ lowerRuns := List.mem_of_find?_eq_some hfind
      have hcovers : run.covers c.toNat = true := by simpa using List.find?_some hfind
      have himage := LowerRun.covers_image (image_start_nonneg run hrun) hcovers
      have havoids := List.all_eq_true.mp image_avoids_capitalRuns run hrun
      refine isSmall_of_not_covers fun other hother => ?_
      rcases toNat_ofNat_eq_or (c.toNat + run.shift).toNat with hcode | hcode
      · rw [hcode]
        exact LowerRun.not_covers_of_avoids (List.all_eq_true.mp havoids other hother) himage
      · have hnull : ∀ other ∈ capitalRuns, ¬other.covers 0 = true := by decide +kernel
        rw [hcode]
        exact hnull other hother
    · next hnone =>
      obtain rfl := List.mem_singleton.mp h
      refine ⟨?_, ?_⟩
      · rintro rfl
        exact absurd hnone (by decide)
      · rw [lower, if_neg hsingle, hnone]

theorem isSmall_of_mem_lowercaseAfter {before text : List Char} {c : Char}
    (h : c ∈ lowercaseAfter before text) : IsSmall c := by
  induction text generalizing before with
  | nil => exact absurd h List.not_mem_nil
  | cons first text ih =>
      rw [lowercaseAfter] at h
      rcases List.mem_append.mp h with hfirst | htext
      · split at hfirst
        · have hsigmas : ∀ final : Bool, IsSmall (if final then 'ς' else 'σ') := by decide
          rw [List.mem_singleton.mp hfirst]
          exact hsigmas _
        · exact isSmall_of_mem_lower hfirst
      · exact ih htext

theorem lowercaseAfter_eq_self {text : List Char} (h : ∀ c ∈ text, IsSmall c)
    (before : List Char) : lowercaseAfter before text = text := by
  induction text generalizing before with
  | nil => rfl
  | cons c text ih =>
      obtain ⟨⟨hsigma, hlower⟩, htext⟩ := List.forall_mem_cons.mp h
      rw [lowercaseAfter, if_neg hsigma, hlower, ih htext]
      rfl

end SchemaDdl.LetterCase
