import Mathlib.Data.List.Basic
import OrgAccess.Text.Case

/-!
# What a change of case can come to

Which characters have an image in ASCII. A case mapping moves ASCII letters to ASCII letters and
leaves the rest of ASCII alone (`CaseMap.MovesLetters.apply_of_lt`); from further up only a few
characters come down to it, and these are found by looking at the ends of the runs, without going
through the code points in between (`CaseMap.Separates.mem_lookalikes`). For whole texts:
lower-casing gives a word in ASCII that has no `k` exactly when the text is that word but for the
case of ASCII letters (`lowerChars_eq_iff`). With upper-casing the dotless i is one more way to
write an `I` (`upperChars_eq_iff`).
-/

namespace OrgAccess.Text

/-! ## Runs -/

namespace CaseRun

variable {run : CaseRun} {code image : Nat}

/-- A run moves the code points at its steps, all by the same distance. -/
theorem image?_eq_some_iff :
    run.image? code = some image ↔
      (run.first ≤ code ∧ code ≤ run.last ∧ (code - run.first) % run.stride = 0) ∧
        image = run.image + (code - run.first) := by
  rw [image?]
  split
  · next h => simp [h, eq_comm]
  · next h => simp [h]

/-- The image of the last code point of a run. -/
def lastImage (run : CaseRun) : Nat :=
  run.image + (run.last - run.first)

/-- The images under a run lie between the first and the last. -/
theorem le_image (h : run.image? code = some image) :
    run.image ≤ image ∧ image ≤ run.lastImage := by
  obtain ⟨⟨hfirst, hlast, -⟩, rfl⟩ := image?_eq_some_iff.1 h
  unfold lastImage
  omega

end CaseRun

/-! ## Code points -/

namespace CaseMap

variable {map : CaseMap} {code : Nat}

/-- A code point becomes several, is moved by a run, or is left alone. -/
theorem apply_cases (map : CaseMap) (code : Nat) :
    (code, map.apply code) ∈ map.expansions ∨
      (∃ run ∈ map.runs, ∃ image, run.image? code = some image ∧ map.apply code = [image]) ∨
      ((∀ run ∈ map.runs, run.image? code = none) ∧ map.apply code = [code]) := by
  unfold apply
  cases hlookup : map.expansions.lookup code with
  | some images =>
      obtain ⟨before, after, hsplit, -⟩ := List.lookup_eq_some_iff.1 hlookup
      left
      rw [hsplit]
      simp
  | none =>
      right
      cases hmoved : map.runs.findSome? (·.image? code) with
      | some image =>
          obtain ⟨run, hrun, himage⟩ := List.exists_of_findSome?_eq_some hmoved
          exact .inl ⟨run, hrun, image, himage, rfl⟩
      | none => exact .inr ⟨List.findSome?_eq_none_iff.1 hmoved, rfl⟩

/-- Every image under a case mapping is a character. -/
structure IsValid (map : CaseMap) : Prop where
  runs : ∀ run ∈ map.runs, run.lastImage < 0xD800 ∨ 0xDFFF < run.image ∧ run.lastImage < 0x110000
  expansions : ∀ expansion ∈ map.expansions, ∀ image ∈ expansion.2, image < 0xD800

/-- What a character becomes under a valid mapping are characters. -/
theorem IsValid.isValidChar (h : map.IsValid) (hcode : code.isValidChar) :
    ∀ image ∈ map.apply code, image.isValidChar := by
  rcases map.apply_cases code with hmem | ⟨run, hrun, image, himage, heq⟩ | ⟨-, heq⟩
  · exact fun image hmember => .inl (h.expansions _ hmem image hmember)
  · have hbounds := CaseRun.le_image himage
    have hvalid := h.runs run hrun
    rw [heq, List.forall_mem_singleton]
    unfold Nat.isValidChar
    omega
  · rw [heq, List.forall_mem_singleton]
    exact hcode

/-! ### ASCII -/

/-- On ASCII a case mapping moves the letters of one run and nothing else. -/
structure MovesLetters (map : CaseMap) (letters : CaseRun) : Prop where
  mem_runs : letters ∈ map.runs
  others : ∀ run ∈ map.runs, run = letters ∨ 128 ≤ run.first
  expansions : ∀ expansion ∈ map.expansions, 128 ≤ expansion.1

/-- A code point of ASCII is moved if it is one of the letters, and left alone otherwise. -/
theorem MovesLetters.apply_of_lt {letters : CaseRun} (h : map.MovesLetters letters)
    (hcode : code < 128) : map.apply code = [(letters.image? code).getD code] := by
  rcases map.apply_cases code with hmem | ⟨run, hrun, image, himage, heq⟩ | ⟨hkept, heq⟩
  · have := h.expansions _ hmem
    omega
  · rcases h.others run hrun with rfl | hhigh
    · rw [heq, himage, Option.getD_some]
    · obtain ⟨⟨hfirst, -⟩, -⟩ := CaseRun.image?_eq_some_iff.1 himage
      omega
  · rw [heq, hkept letters h.mem_runs, Option.getD_none]

/-- Above ASCII only the listed code points become a word, which is ASCII: the images of all others
lie above ASCII too, at least in part, or are not in the word. -/
structure Separates (map : CaseMap) (inWord : Nat → Prop) (lookalikes : List Nat) : Prop where
  runs : ∀ run ∈ map.runs, run.last < 128 ∨ 128 ≤ run.image ∨
    run.first = run.last ∧ (¬ inWord run.image ∨ run.first ∈ lookalikes)
  expansions : ∀ expansion ∈ map.expansions, ∃ image ∈ expansion.2, ¬ inWord image

/-- A code point above ASCII that becomes part of a word is one of those listed. -/
theorem Separates.mem_lookalikes {inWord : Nat → Prop} {lookalikes : List Nat}
    (h : map.Separates inWord lookalikes) (hascii : ∀ image, inWord image → image < 128)
    (hcode : 128 ≤ code) (hword : ∀ image ∈ map.apply code, inWord image) : code ∈ lookalikes := by
  rcases map.apply_cases code with hmem | ⟨run, hrun, image, himage, heq⟩ | ⟨-, heq⟩
  · obtain ⟨image, hmember, hout⟩ := h.expansions _ hmem
    exact absurd (hword image hmember) hout
  · rw [heq, List.forall_mem_singleton] at hword
    have hbounds := CaseRun.le_image himage
    have hlow := hascii image hword
    obtain ⟨⟨hfirst, hlast, -⟩, hmoved⟩ := CaseRun.image?_eq_some_iff.1 himage
    rcases h.runs run hrun with hend | hhigh | ⟨hsingle, hout | hlisted⟩
    · omega
    · omega
    · have hsame : image = run.image := by omega
      exact absurd (hsame ▸ hword) hout
    · have hsame : code = run.first := by omega
      exact hsame ▸ hlisted
  · rw [heq, List.forall_mem_singleton] at hword
    have hlow := hascii code hword
    omega

end CaseMap

/-! ## The tables -/

section Tables

-- the tables have about two hundred runs each
set_option maxRecDepth 4096

/-- Lower-casing makes characters of characters. -/
theorem isValid_lowerMap : lowerMap.IsValid where
  runs := by decide
  expansions := by decide

/-- Upper-casing makes characters of characters. -/
theorem isValid_upperMap : upperMap.IsValid where
  runs := by decide
  expansions := by decide

/-- The run of the capitals of ASCII. -/
def capitals : CaseRun := ⟨65, 90, 1, 97⟩

/-- The run of the small letters of ASCII. -/
def smallLetters : CaseRun := ⟨97, 122, 1, 65⟩

/-- On ASCII lower-casing moves the capitals and nothing else. -/
theorem movesLetters_lowerMap : lowerMap.MovesLetters capitals where
  mem_runs := List.mem_cons_self
  others := by decide
  expansions := by decide

/-- On ASCII upper-casing moves the small letters and nothing else. -/
theorem movesLetters_upperMap : upperMap.MovesLetters smallLetters where
  mem_runs := List.mem_cons_self
  others := by decide
  expansions := by decide

/-- The sign for the kelvin is the one character above ASCII with an ASCII letter, `k`, as its lower
case. -/
theorem separates_lowerMap : lowerMap.Separates (fun code => code < 128 ∧ code ≠ 107) [] where
  runs := by decide
  expansions := by decide

/-- The dotless i and the long s have ASCII letters as their upper case, the ligatures of f and of
s and the sharp s several. -/
theorem separates_upperMap :
    upperMap.Separates (fun code => code < 128 ∧ code ≠ 70 ∧ code ≠ 83) [305] where
  runs := by decide
  expansions := by decide

end Tables

/-! ## Characters -/

variable {c : Char}

/-- Nothing above ASCII is moved to a small letter by the case of ASCII letters. -/
theorem toLower_of_le (h : 128 ≤ c.toNat) : c.toLower = c := by
  refine dif_neg fun hcapital => ?_
  exact absurd (Nat.le_trans h (UInt32.le_iff_toNat_le.1 hcapital.2)) (by decide)

/-- Nothing above ASCII is moved to a capital by the case of ASCII letters. -/
theorem toUpper_of_le (h : 128 ≤ c.toNat) : c.toUpper = c := by
  refine dif_neg fun hsmall => ?_
  exact absurd (Nat.le_trans h (UInt32.le_iff_toNat_le.1 hsmall.2)) (by decide)

/-- The images of a character have the images of its code point as their code points. -/
theorem map_toNat_mapChar {map : CaseMap} (h : map.IsValid) (c : Char) :
    (mapChar map c).map Char.toNat = map.apply c.toNat := by
  have hcodes : (map.apply c.toNat).map (Char.toNat ∘ Char.ofNat) =
      (map.apply c.toNat).map id := by
    refine List.map_congr_left fun image himage => ?_
    rw [Function.comp_apply, Char.ofNat, dif_pos (h.isValidChar c.valid image himage)]
    rfl
  rw [mapChar, List.map_map, hcodes, List.map_id]

/-- On ASCII a case mapping is the function that it is on the codes of ASCII. -/
theorem CaseMap.MovesLetters.mapChar_eq {map : CaseMap} {letters : CaseRun} {f : Char → Char}
    (h : map.MovesLetters letters)
    (hf : ∀ code < 128, Char.ofNat ((letters.image? code).getD code) = f (Char.ofNat code))
    (hc : c.toNat < 128) : mapChar map c = [f c] := by
  rw [mapChar, h.apply_of_lt hc, List.map_singleton, hf _ hc, Char.ofNat_toNat]

/-- On ASCII lower-casing is that of ASCII letters. -/
theorem mapChar_lowerMap_of_lt (h : c.toNat < 128) : mapChar lowerMap c = [c.toLower] :=
  movesLetters_lowerMap.mapChar_eq (by decide) h

/-- On ASCII upper-casing is that of ASCII letters. -/
theorem mapChar_upperMap_of_lt (h : c.toNat < 128) : mapChar upperMap c = [c.toUpper] :=
  movesLetters_upperMap.mapChar_eq (by decide) h

/-- A character above ASCII with all its images in a word of ASCII is one of those listed. -/
theorem CaseMap.Separates.toNat_mem_lookalikes {map : CaseMap} {inWord : Nat → Prop}
    {lookalikes : List Nat} (h : map.Separates inWord lookalikes) (hvalid : map.IsValid)
    (hascii : ∀ image, inWord image → image < 128) (hc : 128 ≤ c.toNat)
    (hword : ∀ d ∈ mapChar map c, inWord d.toNat) : c.toNat ∈ lookalikes := by
  refine h.mem_lookalikes hascii hc fun image himage => ?_
  rw [← map_toNat_mapChar hvalid] at himage
  obtain ⟨d, hd, rfl⟩ := List.mem_map.1 himage
  exact hword d hd

/-- In ASCII no place in a word makes a difference. -/
theorem lowerAt_of_lt (h : c.toNat < 128) (before after : List Char) :
    lowerAt before c after = [c.toLower] := by
  have hsigma : c ≠ 'Σ' := by
    rintro rfl
    revert h
    decide
  rw [lowerAt, if_neg hsigma, mapChar_lowerMap_of_lt h]

/-- A character that becomes ASCII, and no `k`, is ASCII. -/
theorem toNat_lt_of_lowerAt {before after : List Char}
    (h : ∀ d ∈ lowerAt before c after, d.toNat < 128 ∧ d ≠ 'k') : c.toNat < 128 := by
  by_contra hhigh
  unfold lowerAt at h
  split at h
  · have hsmall := (h _ (List.mem_singleton.2 rfl)).1
    revert hsmall
    split <;> decide
  · refine List.not_mem_nil (separates_lowerMap.toNat_mem_lookalikes isValid_lowerMap
      (fun _ => And.left) (Nat.not_lt.1 hhigh) fun d hd => ⟨(h d hd).1, fun hk => ?_⟩)
    exact (h d hd).2 (Char.toNat_inj.1 hk)

/-- A character that becomes ASCII, and neither an `F` nor an `S`, is ASCII or the dotless i. -/
theorem toNat_lt_of_upper (h : ∀ d ∈ mapChar upperMap c, d.toNat < 128 ∧ d ≠ 'F' ∧ d ≠ 'S') :
    c.toNat < 128 ∨ c = 'ı' := by
  by_cases hascii : c.toNat < 128
  · exact .inl hascii
  · right
    have hlisted : c.toNat ∈ [305] := by
      refine separates_upperMap.toNat_mem_lookalikes isValid_upperMap (fun _ => And.left)
        (Nat.not_lt.1 hascii) fun d hd => ?_
      obtain ⟨hlow, hf, hs⟩ := h d hd
      exact ⟨hlow, fun hcode => hf (Char.toNat_inj.1 hcode), fun hcode =>
        hs (Char.toNat_inj.1 hcode)⟩
    exact Char.toNat_inj.1 (List.mem_singleton.1 hlisted)

/-! ## Texts -/

variable {cs word : List Char}

/-- In ASCII a text is lower-cased letter by letter. -/
theorem lowerFrom_of_lt (h : ∀ c ∈ cs, c.toNat < 128) (before : List Char) :
    lowerFrom before cs = cs.map Char.toLower := by
  induction cs generalizing before with
  | nil => rfl
  | cons c rest ih =>
      rw [List.forall_mem_cons] at h
      rw [lowerFrom, lowerAt_of_lt h.1, ih h.2, List.map_cons, List.singleton_append]

/-- What becomes ASCII, and has no `k` then, is ASCII. -/
theorem toNat_lt_of_lowerFrom {before : List Char}
    (h : ∀ d ∈ lowerFrom before cs, d.toNat < 128 ∧ d ≠ 'k') : ∀ c ∈ cs, c.toNat < 128 := by
  induction cs generalizing before with
  | nil => exact List.forall_mem_nil _
  | cons c rest ih =>
      rw [lowerFrom, List.forall_mem_append] at h
      exact List.forall_mem_cons.2 ⟨toNat_lt_of_lowerAt h.1, ih h.2⟩

/-- A text has a word in ASCII without `k` as its lower case exactly when it has the letters of the
word, some of them perhaps as ASCII capitals. -/
theorem lowerChars_eq_iff (hword : ∀ d ∈ word, d.toNat < 128 ∧ d ≠ 'k') :
    lowerChars cs = word ↔ cs.map Char.toLower = word := by
  unfold lowerChars
  constructor
  · rintro rfl
    exact (lowerFrom_of_lt (toNat_lt_of_lowerFrom hword) []).symm
  · rintro rfl
    refine lowerFrom_of_lt (fun c hc => ?_) []
    by_contra hhigh
    have hlow := (hword _ (List.mem_map_of_mem hc)).1
    rw [toLower_of_le (Nat.not_lt.1 hhigh)] at hlow
    exact hhigh hlow

/-- A character with the dotless i taken for an i. -/
def dotted (c : Char) : Char :=
  if c = 'ı' then 'i' else c

/-- In ASCII, and for the dotless i, upper-casing is that of ASCII letters once the dot is set. -/
theorem mapChar_upperMap_eq (h : c.toNat < 128 ∨ c = 'ı') :
    mapChar upperMap c = [(dotted c).toUpper] := by
  rcases h with hascii | rfl
  · have hplain : c ≠ 'ı' := by
      rintro rfl
      revert hascii
      decide
    rw [dotted, if_neg hplain, mapChar_upperMap_of_lt hascii]
  · decide

/-- In ASCII, and with the dotless i, a text is upper-cased letter by letter. -/
theorem upperChars_of_lt (h : ∀ c ∈ cs, c.toNat < 128 ∨ c = 'ı') :
    upperChars cs = cs.map fun c => (dotted c).toUpper := by
  induction cs with
  | nil => rfl
  | cons c rest ih =>
      rw [List.forall_mem_cons] at h
      have hrest : upperChars rest = _ := ih h.2
      rw [upperChars, List.flatMap_cons, mapChar_upperMap_eq h.1, List.singleton_append,
        ← upperChars, hrest, List.map_cons]

/-- A text has a word in ASCII without `F` and `S` as its upper case exactly when it has the letters
of the word, some of them perhaps as small letters of ASCII and an `I` perhaps as the dotless i. -/
theorem upperChars_eq_iff (hword : ∀ d ∈ word, d.toNat < 128 ∧ d ≠ 'F' ∧ d ≠ 'S') :
    upperChars cs = word ↔ cs.map (fun c => (dotted c).toUpper) = word := by
  constructor
  · rintro rfl
    refine (upperChars_of_lt fun c hc => toNat_lt_of_upper fun d hd => ?_).symm
    exact hword d (List.mem_flatMap.2 ⟨c, hc, hd⟩)
  · rintro rfl
    refine upperChars_of_lt fun c hc => ?_
    by_contra hother
    obtain ⟨hhigh, hplain⟩ := not_or.1 hother
    have hlow := (hword _ (List.mem_map_of_mem hc)).1
    rw [dotted, if_neg hplain, toUpper_of_le (Nat.not_lt.1 hhigh)] at hlow
    exact hhigh hlow

end OrgAccess.Text
