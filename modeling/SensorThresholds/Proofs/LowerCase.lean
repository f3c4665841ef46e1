import SensorThresholds.Text.LowerCase

/-!
Lower case beside ASCII. Of the characters beyond ASCII only the Kelvin sign has a lower-case form
in ASCII, so that a text without a `k` that is in ASCII is the lower-case form of its own spellings
in ASCII and of nothing else.
-/

namespace SensorThresholds

def isAscii (c : Char) : Bool := c.toNat < 0x80

theorem isAscii_iff (c : Char) : isAscii c = true ↔ c.toNat < 0x80 := decide_eq_true_iff

theorem toNat_ofNat_of_isValidChar {n : Nat} (valid : n.isValidChar) :
    (Char.ofNat n).toNat = n := by
  rw [Char.ofNat, dif_pos valid]
  rfl

/-- What a run says of its characters' lower-case forms: they are characters, beyond ASCII but for
that of the Kelvin sign. -/
def CaseRun.Sound (run : CaseRun) : Prop :=
  (0x80 ≤ run.first + run.offset ∨ run.first = 0x212A ∧ run.last = 0x212A) ∧
    (0 ≤ run.first + run.offset ∧ run.last + run.offset < 0xD800 ∨
      0xDFFF < run.first + run.offset ∧ run.last + run.offset < 0x110000)

instance (run : CaseRun) : Decidable run.Sound := inferInstanceAs (Decidable (_ ∧ _))

theorem caseRuns_sound : ∀ run ∈ caseRuns, run.Sound := by
  decide +kernel

/-- The Kelvin sign is the only character beyond ASCII with a lower-case form in ASCII. -/
theorem isAscii_of_lowerChar {c : Char} (lowered : isAscii (lowerChar c) = true) :
    isAscii c = true ∨ c = '\u212A' := by
  rcases Nat.lt_or_ge c.toNat 0x80 with ascii | beyond
  · exact .inl ((isAscii_iff c).mpr ascii)
  · right
    rw [isAscii_iff, lowerChar, if_neg (Nat.not_lt.mpr beyond)] at lowered
    split at lowered
    · next run found =>
        obtain ⟨far, valid⟩ := caseRuns_sound run (List.mem_of_find?_eq_some found)
        have within := List.find?_some found
        simp only [CaseRun.contains, Bool.and_eq_true, decide_eq_true_eq] at within
        have scalar : (c.toNat + run.offset).toNat.isValidChar := by
          unfold Nat.isValidChar
          omega
        rw [toNat_ofNat_of_isValidChar scalar] at lowered
        apply Char.toNat_inj.mp
        show c.toNat = 0x212A
        omega
    · exact absurd lowered (Nat.not_lt.mpr beyond)

theorem isAscii_of_toLower {c : Char} (lowered : isAscii c.toLower = true) : isAscii c = true := by
  unfold Char.toLower at lowered
  split at lowered
  · next upper =>
      rw [isAscii_iff]
      exact Nat.lt_of_le_of_lt (UInt32.le_iff_toNat_le.mp upper.2) (by decide)
  · exact lowered

/-- In ASCII every character is lowered on its own. -/
theorem lowerAfter_of_isAscii {cs : List Char} (before : List Char)
    (ascii : ∀ c ∈ cs, isAscii c = true) : lowerAfter before cs = cs.map Char.toLower := by
  induction cs generalizing before with
  | nil => rfl
  | cons c rest ih =>
      obtain ⟨first, others⟩ := List.forall_mem_cons.mp ascii
      have sigma : c ≠ 'Σ' := by
        rintro rfl
        cases first
      have dotted : c ≠ 'İ' := by
        rintro rfl
        cases first
      rw [lowerAfter, ih _ others, if_neg sigma, if_neg dotted, lowerChar,
        if_pos ((isAscii_iff c).mp first), List.map_cons, List.singleton_append]

/-- A lower-case form in ASCII that has no `k` is that of a text in ASCII. -/
theorem isAscii_of_lowerAfter {cs : List Char} {before : List Char}
    (lowered : ∀ c ∈ lowerAfter before cs, isAscii c = true ∧ c ≠ 'k') :
    ∀ c ∈ cs, isAscii c = true := by
  induction cs generalizing before with
  | nil => simp
  | cons c rest ih =>
      rw [lowerAfter, List.forall_mem_append] at lowered
      obtain ⟨first, others⟩ := lowered
      refine List.forall_mem_cons.mpr ⟨?_, ih others⟩
      split at first
      · have own := (first _ (List.mem_singleton_self _)).1
        split at own <;> cases own
      · split at first
        · exact absurd (first '\u0307' (by simp)).1 (by decide)
        · obtain ⟨ascii, other⟩ := first _ (List.mem_singleton_self _)
          refine (isAscii_of_lowerChar ascii).resolve_right ?_
          rintro rfl
          exact other (by decide +kernel)

/-- In Unicode a text in ASCII without a `k` has no other spellings than in ASCII. -/
theorem lowerCase_eq_iff {text target : String}
    (plain : target.toList.all (fun c => isAscii c && c != 'k') = true) :
    lowerCase text = target ↔ text.toLower = target := by
  simp only [List.all_eq_true, Bool.and_eq_true, bne_iff_ne] at plain
  have mapped : text.toLower.toList = text.toList.map Char.toLower := by
    delta String.toLower
    exact String.toList_map
  have lowered : (lowerCase text).toList = lowerAfter [] text.toList := String.toList_ofList
  rw [← String.toList_inj, ← String.toList_inj, lowered, mapped]
  constructor
  · intro same
    rw [← same] at plain ⊢
    rw [lowerAfter_of_isAscii [] (isAscii_of_lowerAfter plain)]
  · intro same
    rw [← same] at plain ⊢
    refine lowerAfter_of_isAscii [] fun c member => isAscii_of_toLower ?_
    exact (plain _ (List.mem_map_of_mem member)).1

end SensorThresholds
