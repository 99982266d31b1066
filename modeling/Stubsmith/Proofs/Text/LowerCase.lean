import Stubsmith.Text.Identifier
import Stubsmith.Text.LowerCase

/-!
# Lower case and identifiers

The lower-case form of a character that may begin an identifier may begin one too. This is looked up
in the tables of letters.

## Main definitions

* `CaseRun.keepsStart` — how this is looked up for a run of letters.

## Main results

* `lowerCase_of_isIdentifierStart` — a first character in lower case is fit to be the first.
* `eq_of_mem_lowerCase` — in lower case there are no marks that were not there before.
-/

namespace Stubsmith.Text

/-- Whether all code points in a closed range stand for characters beyond ASCII. -/
def areCharacters (first last : Nat) : Bool :=
  128 ≤ first && (last < 0xD800 || (0xDFFF < first && last < 0x110000))

/-- Whether the lower-case forms of the letters on a run may begin an identifier if the letters
themselves may. As far as possible whole runs are compared. -/
def CaseRun.keepsStart (run : CaseRun) : Bool :=
  let last := run.target + (run.last - run.first)
  (Nat.ble 0x61 run.target && Nat.ble last 0x7A) ||
  areCharacters run.target last &&
    ((startRanges.any fun r => Nat.ble r.1 run.target && Nat.ble last r.2) ||
      Nat.ble 128 run.first &&
        ((startRanges.all fun r => Nat.blt r.2 run.first || Nat.blt run.last r.1) ||
          (List.range (run.last - run.first + 1)).all fun k =>
            k % run.step != 0 || !inRanges startRanges (run.first + k) ||
              inRanges startRanges (run.target + k)))

theorem keepsStart_of_mem_caseRuns : ∀ run ∈ caseRuns, run.keepsStart = true := by
  decide +kernel

theorem toNat_ofNat {n : Nat} (valid : n < 0xD800 ∨ 0xDFFF < n ∧ n < 0x110000) :
    (Char.ofNat n).toNat = n := by
  rw [Char.ofNat, dif_pos valid]
  rfl

theorem isIdentifierStart_ofNat_of_range {n : Nat} (beyond : 128 ≤ n)
    (valid : n < 0xD800 ∨ 0xDFFF < n ∧ n < 0x110000) (found : inRanges startRanges n = true) :
    isIdentifierStart (Char.ofNat n) = true := by
  simp [isIdentifierStart, toNat_ofNat valid, beyond, found]

theorem isIdentifierStart_ofNat_of_small {n : Nat} (first : 0x61 ≤ n) (last : n ≤ 0x7A) :
    isIdentifierStart (Char.ofNat n) = true := by
  have small : ∀ n ∈ List.range' 0x61 26, isIdentifierStart (Char.ofNat n) = true := by decide
  exact small n (List.mem_range'_1.mpr ⟨first, by omega⟩)

/-- Beyond ASCII, the characters that may begin an identifier are looked up. -/
theorem inRanges_of_isIdentifierStart {c : Char} (beyond : 128 ≤ c.toNat)
    (start : isIdentifierStart c = true) : inRanges startRanges c.toNat = true := by
  unfold isIdentifierStart at start
  rw [Bool.or_eq_true, Bool.or_eq_true, Bool.and_eq_true] at start
  rcases start with (alpha | low) | ⟨_, found⟩
  · exfalso
    have small : c.toNat < 128 := by
      rcases (Bool.or_eq_true _ _).mp alpha with upper | lower
      · have last : c ≤ 'Z' := (of_decide_eq_true upper).2
        exact Nat.lt_of_le_of_lt (UInt32.le_iff_toNat_le.mp last) (by decide)
      · have last : c ≤ 'z' := of_decide_eq_true ((Bool.and_eq_true _ _).mp lower).2
        exact Nat.lt_of_le_of_lt (UInt32.le_iff_toNat_le.mp last) (by decide)
    omega
  · rw [beq_iff_eq] at low
    subst low
    revert beyond
    decide
  · exact found

theorem inRanges_iff {ranges : List (Nat × Nat)} {n : Nat} :
    inRanges ranges n = true ↔ ∃ r ∈ ranges, r.1 ≤ n ∧ n ≤ r.2 := by
  simp only [inRanges, List.any_eq_true, Bool.and_eq_true, decide_eq_true_eq]

/-- The lower-case form of a letter on a run may begin an identifier if the letter may. -/
theorem isIdentifierStart_of_holds {run : CaseRun} (mem : run ∈ caseRuns) {c : Char}
    (holds : run.holds c.toNat = true) (start : isIdentifierStart c = true) :
    isIdentifierStart (Char.ofNat (run.target + (c.toNat - run.first))) = true := by
  have keeps := keepsStart_of_mem_caseRuns run mem
  unfold CaseRun.holds at holds
  unfold CaseRun.keepsStart areCharacters at keeps
  simp only [Bool.or_eq_true, Bool.and_eq_true, decide_eq_true_eq, Nat.ble_eq, Nat.blt_eq,
    List.any_eq_true, List.all_eq_true, beq_iff_eq] at holds keeps
  obtain ⟨⟨first, last⟩, step⟩ := holds
  rcases keeps with ⟨small, large⟩ | ⟨⟨beyond, valid⟩, whole | ⟨hfirst, apart | each⟩⟩
  · exact isIdentifierStart_ofNat_of_small (by omega) (by omega)
  · obtain ⟨r, hr, low, high⟩ := whole
    refine isIdentifierStart_ofNat_of_range (by omega) (by omega) ?_
    exact inRanges_iff.mpr ⟨r, hr, by omega, by omega⟩
  · have found := inRanges_of_isIdentifierStart (by omega) start
    obtain ⟨r, hr, low, high⟩ := inRanges_iff.mp found
    have outside := apart r hr
    omega
  · have found := inRanges_of_isIdentifierStart (by omega) start
    have here : run.first + (c.toNat - run.first) = c.toNat := by omega
    have kept := each (c.toNat - run.first) (List.mem_range.mpr (by omega))
    rw [here, step, found] at kept
    exact isIdentifierStart_ofNat_of_range (by omega) (by omega) (by simpa using kept)

/-- The lower-case form of a character that may begin an identifier may begin one. -/
theorem lowerCase_of_isIdentifierStart {c : Char} (start : isIdentifierStart c = true) :
    ∃ d ds, lowerCase c = d :: ds ∧ isIdentifierStart d = true ∧
      ∀ e ∈ ds, isIdentifierPart e = true := by
  unfold lowerCase
  split
  · refine ⟨_, _, rfl, by decide, List.forall_mem_singleton.mpr (by decide +kernel)⟩
  · split
    · rename_i run found
      have mem := List.mem_of_find?_eq_some found
      have holds := List.find?_some found
      exact ⟨_, [], rfl, isIdentifierStart_of_holds mem holds start, List.forall_mem_nil _⟩
    · exact ⟨c, [], rfl, start, List.forall_mem_nil _⟩

/-- A character that comes before the small letters is in no lower-case form but its own. -/
theorem eq_of_mem_lowerCase {c d : Char} (mem : d ∈ lowerCase c) (small : d.toNat < 0x61) :
    d = c := by
  unfold lowerCase at mem
  split at mem
  · simp only [List.mem_cons, List.not_mem_nil, or_false] at mem
    rcases mem with rfl | rfl <;> exact absurd small (by decide +kernel)
  · split at mem
    · rename_i run found
      have keeps := keepsStart_of_mem_caseRuns run (List.mem_of_find?_eq_some found)
      have holds := List.find?_some found
      unfold CaseRun.holds at holds
      unfold CaseRun.keepsStart areCharacters at keeps
      simp only [Bool.or_eq_true, Bool.and_eq_true, decide_eq_true_eq, Nat.ble_eq] at holds keeps
      -- The forms on a run are characters, and come no earlier than the first of them.
      rw [List.mem_singleton.mp mem, toNat_ofNat (by omega)] at small
      omega
    · exact List.mem_singleton.mp mem

end Stubsmith.Text
