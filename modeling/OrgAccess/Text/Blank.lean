/-!
# Blank characters

The characters with the Unicode property White_Space, and the text left when they are removed from
its ends. `trim_eq_self` says that a text with no blank at either end is left alone, and
`head?_trim` that a trimmed text starts with no blank.
-/

namespace OrgAccess.Text

/-- The characters with the property White_Space. -/
def blankRanges : List (Nat × Nat) := [
    (9, 13), (32, 32), (133, 133), (160, 160), (5760, 5760), (8192, 8202), (8232, 8233),
    (8239, 8239), (8287, 8287), (12288, 12288)]

/-- Whether a character is blank. -/
def isBlank (c : Char) : Bool :=
  blankRanges.any fun range => range.1 ≤ c.toNat && c.toNat ≤ range.2

/-- The characters after the leading blanks. -/
def trimStart (cs : List Char) : List Char :=
  cs.dropWhile isBlank

/-- The characters before the trailing blanks. -/
def trimEnd (cs : List Char) : List Char :=
  (cs.reverse.dropWhile isBlank).reverse

/-- The characters between the leading and the trailing blanks. -/
def trim (cs : List Char) : List Char :=
  trimEnd (trimStart cs)

/-! ## Laws -/

/-- Nothing is dropped from a list whose first element is kept. -/
theorem dropWhile_eq_self {α : Type} {p : α → Bool} {xs : List α}
    (h : ∀ x, xs.head? = some x → p x = false) : xs.dropWhile p = xs := by
  cases xs with
  | nil => rfl
  | cons x rest => simp [h x rfl]

/-- A text with no blank at either end is left alone. -/
theorem trim_eq_self {cs : List Char} (hfirst : ∀ c, cs.head? = some c → isBlank c = false)
    (hlast : ∀ c, cs.getLast? = some c → isBlank c = false) : trim cs = cs := by
  have hs : trimStart cs = cs := dropWhile_eq_self hfirst
  have he : cs.reverse.dropWhile isBlank = cs.reverse :=
    dropWhile_eq_self fun c hc => hlast c (by simpa using hc)
  simp [trim, trimEnd, hs, he]

/-- A trimmed text ends with no blank. -/
theorem getLast?_trim {cs : List Char} {c : Char} (h : (trim cs).getLast? = some c) :
    isBlank c = false := by
  have hrev : ((trimStart cs).reverse.dropWhile isBlank).head? = some c := by
    simpa [trim, trimEnd] using h
  simpa only [hrev] using List.head?_dropWhile_not isBlank (trimStart cs).reverse

/-- Removing trailing blanks keeps a first part of the text. -/
theorem trimEnd_append (cs : List Char) : ∃ rest, trimEnd cs ++ rest = cs := by
  refine ⟨(cs.reverse.takeWhile isBlank).reverse, ?_⟩
  rw [trimEnd, ← List.reverse_append, List.takeWhile_append_dropWhile, List.reverse_reverse]

/-- A trimmed text starts with no blank. -/
theorem head?_trim {cs : List Char} {c : Char} (h : (trim cs).head? = some c) :
    isBlank c = false := by
  obtain ⟨rest, hrest⟩ := trimEnd_append (trimStart cs)
  have hstart : (cs.dropWhile isBlank).head? = some c := by
    rw [← trimStart, ← hrest]
    cases ht : trimEnd (trimStart cs) with
    | nil => simp [trim, ht] at h
    | cons d tail =>
        have hd : d = c := by simpa [trim, ht] using h
        simp [hd]
  simpa only [hstart] using List.head?_dropWhile_not isBlank cs

end OrgAccess.Text
