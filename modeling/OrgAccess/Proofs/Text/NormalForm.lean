import Mathlib.Data.List.TakeWhile
import OrgAccess.Proofs.Text.CaseMapping
import OrgAccess.Text.Blank

/-!
# Lower case as a normal form

Lower-casing a text again changes nothing (`lowerChars_lowerChars`). No image under the lower-case
mapping is moved by it once more, which is seen by looking, for each run, at the few others that its
images reach into; and a final sigma can only come of a capital, of which none is left. Nor does
lower-casing make a blank, so the lower case of a text without blanks at its ends has none there
either (`IsTrimmed.lowerChars`).
-/

namespace OrgAccess.Text

/-! ## Images that are not moved again -/

namespace CaseRun

variable {run other : CaseRun} {runs : List CaseRun} {code image : Nat}

/-- Those of several runs in order that lie neither before nor behind all images under a run. -/
def reached (run : CaseRun) (runs : List CaseRun) : List CaseRun :=
  (runs.dropWhile fun other => Nat.blt other.last run.image).takeWhile fun other =>
    Nat.ble other.first run.lastImage

/-- Whether a run moves every second code point and the images under another are some of those
between. -/
def interleaves (run other : CaseRun) : Bool :=
  (run.first == run.last || run.stride % 2 == 0) && other.stride % 2 == 0 &&
    run.image % 2 != other.first % 2

/-- Among runs in order all that are passed over at the end lie behind. -/
theorem mem_takeWhile_or {bound : Nat} (hsorted : runs.Pairwise fun a b => a.first ≤ b.first)
    (h : other ∈ runs) :
    other ∈ runs.takeWhile (fun other => Nat.ble other.first bound) ∨ bound < other.first := by
  induction hsorted with
  | nil => cases h
  | @cons head rest hhead _ ih =>
      by_cases hreach : head.first ≤ bound
      · rw [List.takeWhile_cons_of_pos (by simpa using hreach)]
        rcases List.mem_cons.1 h with rfl | h
        · exact .inl List.mem_cons_self
        · exact (ih h).imp_left (List.mem_cons_of_mem head)
      · right
        rcases List.mem_cons.1 h with rfl | h
        · exact Nat.lt_of_not_le hreach
        · exact Nat.lt_of_lt_of_le (Nat.lt_of_not_le hreach) (hhead other h)

/-- Of several runs in order those that are not reached lie before all images or behind them. -/
theorem mem_reached_or (hsorted : runs.Pairwise fun a b => a.first ≤ b.first)
    (h : other ∈ runs) :
    other ∈ run.reached runs ∨ other.last < run.image ∨ run.lastImage < other.first := by
  have hsplit := List.takeWhile_append_dropWhile (l := runs)
    (p := fun other : CaseRun => Nat.blt other.last run.image)
  rw [← hsplit] at h
  rcases List.mem_append.1 h with hbefore | hrest
  · exact .inr (.inl (by simpa using List.mem_takeWhile_imp hbefore))
  · exact (mem_takeWhile_or (hsorted.sublist (List.dropWhile_sublist _)) hrest).imp_right .inr

/-- A run of every second code point stays with the even or with the odd ones. -/
theorem offset_even (heven : run.stride % 2 = 0) (h : run.image? code = some image) :
    (code - run.first) % 2 = 0 := by
  obtain ⟨⟨-, -, hstep⟩, -⟩ := image?_eq_some_iff.1 h
  exact Nat.mod_eq_zero_of_dvd
    (Nat.dvd_trans (Nat.dvd_of_mod_eq_zero heven) (Nat.dvd_of_mod_eq_zero hstep))

/-- A run that lies apart from the images under another moves none of them. -/
theorem image?_of_apart (hapart : other.last < run.image ∨ run.lastImage < other.first)
    (h : run.image? code = some image) : other.image? image = none := by
  rw [Option.eq_none_iff_forall_ne_some]
  intro final hfinal
  have hbounds := le_image h
  obtain ⟨⟨hfirst, hlast, -⟩, -⟩ := image?_eq_some_iff.1 hfinal
  omega

/-- A run that moves only code points between the images under another moves none of them. -/
theorem image?_of_interleaves (hinterleaves : run.interleaves other = true)
    (h : run.image? code = some image) : other.image? image = none := by
  rw [Option.eq_none_iff_forall_ne_some]
  intro final hfinal
  obtain ⟨⟨hfirst, hlast, -⟩, himage⟩ := image?_eq_some_iff.1 h
  obtain ⟨⟨hfirst', -⟩, -⟩ := image?_eq_some_iff.1 hfinal
  simp only [interleaves, Bool.or_eq_true, Bool.and_eq_true, beq_iff_eq, bne_iff_ne] at hinterleaves
  obtain ⟨⟨hsteps, heven⟩, hparity⟩ := hinterleaves
  have hmoved := offset_even heven hfinal
  rcases hsteps with hsingle | hsteps
  · omega
  · have hoffset := offset_even hsteps h
    omega

end CaseRun

namespace CaseMap

variable {map : CaseMap} {code : Nat}

/-- What becomes of a code point under a case mapping is left alone by it. -/
structure IsSettled (map : CaseMap) : Prop where
  sorted : (map.runs.map CaseRun.first).IsChain (· ≤ ·)
  runs : (map.runs.all fun run => (run.reached map.runs).all run.interleaves) = true
  keys : ∀ run ∈ map.runs, ∀ expansion ∈ map.expansions,
    run.lastImage < expansion.1 ∨ expansion.1 < run.image
  expansions : ∀ expansion ∈ map.expansions, ∀ image ∈ expansion.2, map.apply image = [image]

/-- A code point that no run moves and no expansion lists is left alone. -/
theorem apply_eq_self (hruns : ∀ run ∈ map.runs, run.image? code = none)
    (hkeys : ∀ expansion ∈ map.expansions, expansion.1 ≠ code) : map.apply code = [code] := by
  rcases map.apply_cases code with hmem | ⟨run, hrun, image, himage, -⟩ | ⟨-, heq⟩
  · exact absurd rfl (hkeys _ hmem)
  · cases (hruns run hrun).symm.trans himage
  · exact heq

/-- A run does not move what a run makes: it lies apart from the images, or between them. -/
theorem IsSettled.image?_eq_none (h : map.IsSettled) {run other : CaseRun} (hrun : run ∈ map.runs)
    (hother : other ∈ map.runs) {image : Nat} (himage : run.image? code = some image) :
    other.image? image = none := by
  have hsorted := List.pairwise_map.1 h.sorted.pairwise
  rcases CaseRun.mem_reached_or hsorted hother with hreached | hapart
  · have hall := List.all_eq_true.1 h.runs run hrun
    exact CaseRun.image?_of_interleaves (List.all_eq_true.1 hall other hreached) himage
  · exact CaseRun.image?_of_apart hapart himage

/-- Under a settled mapping no image is moved again. -/
theorem IsSettled.apply_image (h : map.IsSettled) {image : Nat} (himage : image ∈ map.apply code) :
    map.apply image = [image] := by
  rcases map.apply_cases code with hmem | ⟨run, hrun, moved, hmoved, heq⟩ | ⟨-, heq⟩
  · exact h.expansions _ hmem image himage
  · obtain rfl : image = moved := by simpa [heq] using himage
    refine apply_eq_self (fun other hother => ?_) fun expansion hexpansion => ?_
    · exact h.image?_eq_none hrun hother hmoved
    · have hbounds := CaseRun.le_image hmoved
      have hapart := h.keys run hrun expansion hexpansion
      omega
  · obtain rfl : image = code := by simpa [heq] using himage
    exact heq

end CaseMap

set_option maxRecDepth 4096 in
/-- Lower-casing is settled: what it makes it leaves alone. -/
theorem isSettled_lowerMap : lowerMap.IsSettled where
  sorted := by decide
  runs := by decide
  keys := by decide
  expansions := by decide

/-! ## Lower case -/

variable {c d : Char} {before after cs : List Char}

/-- A character that lower-casing leaves alone wherever it stands. -/
def IsLower (c : Char) : Prop :=
  c ≠ 'Σ' ∧ mapChar lowerMap c = [c]

/-- Whether a character stays is seen from its image. -/
instance (c : Char) : Decidable (IsLower c) :=
  inferInstanceAs (Decidable (_ ∧ _))

/-- A character that stays is its own lower case at every place. -/
theorem IsLower.lowerAt_eq (h : IsLower c) (before after : List Char) :
    lowerAt before c after = [c] := by
  rw [lowerAt, if_neg h.1, h.2]

/-- The code point of an image of a character is an image of its code point. -/
theorem toNat_mem_apply (h : d ∈ mapChar lowerMap c) : d.toNat ∈ lowerMap.apply c.toNat := by
  rw [← map_toNat_mapChar isValid_lowerMap]
  exact List.mem_map_of_mem h

/-- Every character of a lower case is one that stays. -/
theorem isLower_of_mem_lowerAt (h : d ∈ lowerAt before c after) : IsLower d := by
  unfold lowerAt at h
  split at h
  · obtain rfl := List.mem_singleton.1 h
    split <;> decide
  · have hfixed : mapChar lowerMap d = [d] := by
      rw [mapChar, isSettled_lowerMap.apply_image (toNat_mem_apply h), List.map_singleton,
        Char.ofNat_toNat]
    refine ⟨?_, hfixed⟩
    rintro rfl
    revert hfixed
    decide

/-- Every character of a text in lower case is one that stays. -/
theorem isLower_of_mem_lowerFrom (h : d ∈ lowerFrom before cs) : IsLower d := by
  induction cs generalizing before with
  | nil => cases h
  | cons c rest ih =>
      rw [lowerFrom, List.mem_append] at h
      rcases h with hfirst | hrest
      · exact isLower_of_mem_lowerAt hfirst
      · exact ih hrest

/-- A text of characters that stay is its own lower case. -/
theorem lowerFrom_eq_self (h : ∀ c ∈ cs, IsLower c) (before : List Char) :
    lowerFrom before cs = cs := by
  induction cs generalizing before with
  | nil => rfl
  | cons c rest ih =>
      rw [List.forall_mem_cons] at h
      rw [lowerFrom, h.1.lowerAt_eq, ih h.2, List.singleton_append]

/-- A text in lower case is its own lower case. -/
theorem lowerChars_lowerChars (cs : List Char) : lowerChars (lowerChars cs) = lowerChars cs :=
  lowerFrom_eq_self (fun _ => isLower_of_mem_lowerFrom) []

/-! ## Blanks -/

set_option maxRecDepth 4096 in
/-- No code point that another becomes is that of a blank. -/
theorem eq_of_blank_image {code image : Nat} (himage : image ∈ lowerMap.apply code)
    {range : Nat × Nat} (hrange : range ∈ blankRanges)
    (hblank : range.1 ≤ image ∧ image ≤ range.2) : image = code := by
  have hruns : ∀ run ∈ lowerMap.runs, ∀ range ∈ blankRanges,
      run.lastImage < range.1 ∨ range.2 < run.image := by decide
  have hexpansions : ∀ expansion ∈ lowerMap.expansions, ∀ image ∈ expansion.2,
      ∀ range ∈ blankRanges, ¬ (range.1 ≤ image ∧ image ≤ range.2) := by decide
  rcases lowerMap.apply_cases code with hmem | ⟨run, hrun, moved, hmoved, heq⟩ | ⟨-, heq⟩
  · exact absurd hblank (hexpansions _ hmem image himage range hrange)
  · obtain rfl : image = moved := by simpa [heq] using himage
    have hbounds := CaseRun.le_image hmoved
    have hapart := hruns run hrun range hrange
    omega
  · simpa [heq] using himage

/-- A blank in a lower case comes of the same blank. -/
theorem eq_of_isBlank_lowerAt (h : d ∈ lowerAt before c after) (hblank : isBlank d = true) :
    d = c := by
  unfold lowerAt at h
  split at h
  · obtain rfl := List.mem_singleton.1 h
    have hletters : isBlank 'ς' = false ∧ isBlank 'σ' = false := by decide
    split at hblank
    · cases hletters.1.symm.trans hblank
    · cases hletters.2.symm.trans hblank
  · obtain ⟨range, hrange, hbounds⟩ := List.any_eq_true.1 hblank
    simp only [Bool.and_eq_true, decide_eq_true_eq] at hbounds
    exact Char.toNat_inj.1 (eq_of_blank_image (toNat_mem_apply h) hrange hbounds)

/-- Lower-casing drops no character. -/
theorem lowerAt_ne_nil : lowerAt before c after ≠ [] := by
  have hexpansions : ∀ expansion ∈ lowerMap.expansions, expansion.2 ≠ [] := by decide
  unfold lowerAt
  split
  · exact List.cons_ne_nil _ _
  · rw [mapChar, Ne, List.map_eq_nil_iff]
    rcases lowerMap.apply_cases c.toNat with hmem | ⟨run, -, image, -, heq⟩ | ⟨-, heq⟩
    · exact hexpansions _ hmem
    · rw [heq]
      exact List.cons_ne_nil _ _
    · rw [heq]
      exact List.cons_ne_nil _ _

/-- The first character of a lower case comes of the first character. -/
theorem exists_head?_of_lowerFrom (h : (lowerFrom before cs).head? = some d) :
    ∃ c after, cs.head? = some c ∧ d ∈ lowerAt before c after := by
  cases cs with
  | nil => cases h
  | cons c rest =>
      rw [lowerFrom, List.head?_append_of_ne_nil _ lowerAt_ne_nil] at h
      exact ⟨c, rest, rfl, List.mem_of_head? h⟩

/-- The last one comes of the last. -/
theorem exists_getLast?_of_lowerFrom (h : (lowerFrom before cs).getLast? = some d) :
    ∃ c passed, cs.getLast? = some c ∧ d ∈ lowerAt passed c [] := by
  induction cs generalizing before with
  | nil => cases h
  | cons c rest ih =>
      rw [lowerFrom] at h
      cases rest with
      | nil =>
          rw [lowerFrom, List.append_nil] at h
          exact ⟨c, before, rfl, List.mem_of_getLast? h⟩
      | cons next rest =>
          have hne : lowerFrom (c :: before) (next :: rest) ≠ [] := by
            rw [lowerFrom, Ne, List.append_eq_nil_iff]
            exact fun hnil => lowerAt_ne_nil hnil.1
          rw [List.getLast?_append_of_ne_nil _ hne] at h
          obtain ⟨last, passed, hlast, hmem⟩ := ih h
          exact ⟨last, passed, hlast, hmem⟩

/-- A text has no blank at either end. -/
structure IsTrimmed (cs : List Char) : Prop where
  first : ∀ c, cs.head? = some c → isBlank c = false
  last : ∀ c, cs.getLast? = some c → isBlank c = false

/-- A text that is trimmed has no blank at either end. -/
theorem isTrimmed_trim (cs : List Char) : IsTrimmed (trim cs) where
  first _ := head?_trim
  last _ := getLast?_trim

/-- Lower-casing brings no blank to either end. -/
theorem IsTrimmed.lowerChars (h : IsTrimmed cs) : IsTrimmed (lowerChars cs) where
  first d hd := by
    obtain ⟨c, after, hc, hmem⟩ := exists_head?_of_lowerFrom hd
    by_contra hblank
    have hsame := eq_of_isBlank_lowerAt hmem (Bool.not_eq_false _ ▸ hblank)
    exact hblank (hsame ▸ h.first c hc)
  last d hd := by
    obtain ⟨c, passed, hc, hmem⟩ := exists_getLast?_of_lowerFrom hd
    by_contra hblank
    have hsame := eq_of_isBlank_lowerAt hmem (Bool.not_eq_false _ ▸ hblank)
    exact hblank (hsame ▸ h.last c hc)

/-- Trimming leaves alone a text with no blank at either end. -/
theorem IsTrimmed.trim_eq (h : IsTrimmed cs) : trim cs = cs :=
  trim_eq_self h.first h.last

end OrgAccess.Text
