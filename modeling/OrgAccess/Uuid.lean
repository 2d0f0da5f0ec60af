import OrgAccess.Json.Printer

/-!
# Unique identifiers

A unique identifier is a number of 128 bits. It is written as five groups of lower-case
hexadecimal digits, and read in that form, without the hyphens, in braces, or as a URN, with
letters of either case. `ofText?_text` says that what is written is read back, so different
identifiers have different texts (`text_injective`).
-/

namespace OrgAccess

/-- The least number of more than 128 bits. -/
def Uuid.limit : Nat := 0x100000000000000000000000000000000

/-- A number of 128 bits that names a record. -/
structure Uuid where
  number : Nat
  bounded : number < Uuid.limit
deriving DecidableEq

namespace Uuid

/-- The identifier with the lowest 128 bits of a number. -/
def ofNat (n : Nat) : Uuid :=
  ⟨n % limit, Nat.mod_lt _ (by decide)⟩

/-- The last `count` hexadecimal digits of a number, highest first. -/
def digits : (count : Nat) → Nat → List Nat
  | 0, _ => []
  | count + 1, n => digits count (n / 16) ++ [n % 16]

/-- The number of texts of `count` hexadecimal digits. -/
def capacity : (count : Nat) → Nat
  | 0 => 1
  | count + 1 => 16 * capacity count

/-- The number that hexadecimal digits spell. -/
def ofDigits (ds : List Nat) : Nat :=
  ds.foldl (fun total d => total * 16 + d) 0

/-- The lengths of the groups of digits. -/
def groupLengths : List Nat := [8, 4, 4, 4, 12]

/-- The number of elements that groups of the given lengths have together. -/
def total : List Nat → Nat
  | [] => 0
  | length :: lengths => length + total lengths

/-- A list cut into groups of the given lengths, with a separator between the groups. -/
def grouped {α : Type} (separator : α) : List Nat → List α → List α
  | [], xs => xs
  | [_], xs => xs
  | length :: lengths, xs =>
      xs.take length ++ separator :: grouped separator lengths (xs.drop length)

/-- A list of groups put together, if a separator stands after each group but the last. -/
def ungrouped? {α : Type} [DecidableEq α] (separator : α) : List Nat → List α → Option (List α)
  | [], xs => some xs
  | [_], xs => some xs
  | length :: lengths, xs =>
      match xs.drop length with
      | [] => none
      | x :: rest =>
          if x = separator then (ungrouped? separator lengths rest).map (xs.take length ++ ·)
          else none

/-- The digits of an identifier, as characters. -/
def hexChars (id : Uuid) : List Char :=
  (digits 32 id.number).map Json.hexDigit

/-- The characters of an identifier. -/
def chars (id : Uuid) : List Char :=
  grouped '-' groupLengths id.hexChars

/-- The text of an identifier. -/
def text (id : Uuid) : String :=
  String.ofList id.chars

/-- The value of a hexadecimal digit of either case. -/
def digitValue? (c : Char) : Option Nat :=
  if '0' ≤ c ∧ c ≤ '9' then some (c.toNat - 48)
  else if 'a' ≤ c ∧ c ≤ 'f' then some (c.toNat - 87)
  else if 'A' ≤ c ∧ c ≤ 'F' then some (c.toNat - 55)
  else none

/-- The identifier that 32 hexadecimal digits spell. -/
def ofHexChars? (cs : List Char) : Option Uuid :=
  if cs.length = 32 then (cs.mapM digitValue?).map fun ds => ofNat (ofDigits ds) else none

/-- The identifier that 32 hexadecimal digits in five groups spell. -/
def ofGroupedChars? (cs : List Char) : Option Uuid :=
  if cs.length = 36 then (ungrouped? '-' groupLengths cs).bind ofHexChars? else none

/-- What stands before the digits in a URN, in lower case. -/
def urnMark : List Char := ['u', 'r', 'n', ':', 'u', 'u', 'i', 'd', ':']

/-- The part of a text between a pair of braces or after the mark of a URN, whose letters may be
of either case. -/
def unwrap? (cs : List Char) : Option (List Char) :=
  match cs with
  | '\x7b' :: rest => if rest.getLast? = some '\x7d' then some rest.dropLast else none
  | _ =>
      if (cs.take urnMark.length).map Char.toLower = urnMark then some (cs.drop urnMark.length)
      else none

/-- The identifier that a text spells. -/
def ofText? (text : String) : Option Uuid :=
  (ofHexChars? text.toList).or
    ((ofGroupedChars? text.toList).or ((unwrap? text.toList).bind ofGroupedChars?))

/-! ## What is written is read back -/

/-- Identifiers with the same number are equal. -/
theorem number_injective {a b : Uuid} (h : a.number = b.number) : a = b := by
  cases a
  cases b
  simp_all

/-- A digit at the end counts once, and those before it sixteen times as much. -/
theorem ofDigits_append (ds : List Nat) (d : Nat) :
    ofDigits (ds ++ [d]) = ofDigits ds * 16 + d := by
  simp [ofDigits]

/-- The digits of a number give it back, up to what does not fit into so many digits. -/
theorem ofDigits_digits (count n : Nat) : ofDigits (digits count n) = n % capacity count := by
  induction count generalizing n with
  | zero => simp [digits, ofDigits, capacity, Nat.mod_one]
  | succ count ih =>
      rw [digits, ofDigits_append, ih, capacity, Nat.mod_mul]
      omega

/-- A number has as many digits as are asked for. -/
theorem length_digits (count n : Nat) : (digits count n).length = count := by
  induction count generalizing n with
  | zero => rfl
  | succ count ih => simp [digits, ih]

/-- Every digit is less than sixteen. -/
theorem lt_of_mem_digits {count n d : Nat} (h : d ∈ digits count n) : d < 16 := by
  induction count generalizing n with
  | zero => simp [digits] at h
  | succ count ih =>
      rcases List.mem_append.1 h with h | h
      · exact ih h
      · simp only [List.mem_singleton] at h
        omega

/-- A hexadecimal digit is read as its value. -/
theorem digitValue?_hexDigit {d : Nat} (h : d < 16) : digitValue? (Json.hexDigit d) = some d := by
  have := (by decide : ∀ d : Fin 16, digitValue? (Json.hexDigit d.val) = some d.val) ⟨d, h⟩
  exact this

/-- Hexadecimal digits are read as their values. -/
theorem mapM_digitValue? {ds : List Nat} (h : ∀ d ∈ ds, d < 16) :
    (ds.map Json.hexDigit).mapM digitValue? = some ds := by
  induction ds with
  | nil => rfl
  | cons d ds ih =>
      have hd := digitValue?_hexDigit (h d (by simp))
      have hds := ih fun e he => h e (by simp [he])
      simp [hd, hds]

/-- What was put into groups is read as what it was. -/
theorem ungrouped?_grouped {α : Type} [DecidableEq α] (separator : α) (lengths : List Nat)
    (xs : List α) (h : total lengths ≤ xs.length) :
    ungrouped? separator lengths (grouped separator lengths xs) = some xs := by
  induction lengths generalizing xs with
  | nil => rfl
  | cons length lengths ih =>
      cases lengths with
      | nil => rfl
      | cons next lengths =>
          have hlen : length ≤ xs.length := by simp only [total] at h; omega
          have htake : (xs.take length).length = length := by simp [hlen]
          have hrest : total (next :: lengths) ≤ (xs.drop length).length := by
            simp only [total, List.length_drop] at h ⊢
            omega
          simp [grouped, ungrouped?, hlen, ih _ hrest]

/-- Grouping adds one character between every two groups. -/
theorem length_grouped {α : Type} (separator : α) (lengths : List Nat) (xs : List α)
    (h : total lengths ≤ xs.length) :
    (grouped separator lengths xs).length = xs.length + (lengths.length - 1) := by
  induction lengths generalizing xs with
  | nil => rfl
  | cons length lengths ih =>
      cases lengths with
      | nil => rfl
      | cons next lengths =>
          have hlen : length ≤ xs.length := by simp only [total] at h; omega
          have hrest : total (next :: lengths) ≤ (xs.drop length).length := by
            simp only [total, List.length_drop] at h ⊢
            omega
          have := ih _ hrest
          simp only [grouped, List.length_append, List.length_cons, List.length_take,
            List.length_drop] at this ⊢
          omega

/-- An identifier has 32 hexadecimal digits. -/
theorem length_hexChars (id : Uuid) : id.hexChars.length = 32 := by
  rw [hexChars, List.length_map, length_digits]

/-- An identifier is read from its digits. -/
theorem ofHexChars?_hexChars (id : Uuid) : ofHexChars? id.hexChars = some id := by
  have hdigits : (id.hexChars).mapM digitValue? = some (digits 32 id.number) :=
    mapM_digitValue? fun d => lt_of_mem_digits
  have hnumber : ofNat (ofDigits (digits 32 id.number)) = id := by
    have h : ofDigits (digits 32 id.number) = id.number := by
      rw [ofDigits_digits, show capacity 32 = limit from rfl, Nat.mod_eq_of_lt id.bounded]
    rw [h]
    exact number_injective (Nat.mod_eq_of_lt id.bounded)
  rw [ofHexChars?, if_pos (length_hexChars id), hdigits, Option.map_some, hnumber]

/-- The digits of an identifier are enough for the five groups. -/
theorem total_groupLengths_le (id : Uuid) : total groupLengths ≤ id.hexChars.length := by
  rw [length_hexChars]
  decide

/-- An identifier is written with 36 characters. -/
theorem length_chars (id : Uuid) : id.chars.length = 36 := by
  rw [chars, length_grouped _ _ _ (total_groupLengths_le id), length_hexChars]
  rfl

/-- An identifier is read from its digits in groups. -/
theorem ofGroupedChars?_chars (id : Uuid) : ofGroupedChars? id.chars = some id := by
  rw [ofGroupedChars?, if_pos (length_chars id), chars,
    ungrouped?_grouped _ _ _ (total_groupLengths_le id), Option.bind_some, ofHexChars?_hexChars]

/-- The identifier that is written is the one that is read. -/
theorem ofText?_text (id : Uuid) : ofText? id.text = some id := by
  have hhex : ofHexChars? id.chars = none := by
    rw [ofHexChars?, if_neg (by rw [length_chars]; decide)]
  rw [ofText?, text, String.toList_ofList, hhex, ofGroupedChars?_chars]
  rfl

/-- Different identifiers have different texts. -/
theorem text_injective {a b : Uuid} (h : a.text = b.text) : a = b := by
  have := ofText?_text a
  rw [h, ofText?_text b] at this
  exact (Option.some.inj this).symm

end Uuid

end OrgAccess
