import Http2Failure.Proofs.Texts
import Mathlib.Data.List.Basic

/-!
# Quoted forms that can be read back

A byte string in quotes determines its bytes, and what follows behind its closing quote: every byte
is shown by one of three sorts of escapes, none of which begins another one or with the quote in
use. Hexadecimal numerals determine their numbers, so the name of a reason determines its code.
-/

namespace Http2Failure

namespace Text

def hexDigit (c : Char) : Nat :=
  if c.isDigit then c.toNat - 48 else c.toNat - 87

def ofHexadecimal (digits : List Char) : Nat := digits.foldl (fun n c => 16 * n + hexDigit c) 0

theorem hexDigit_digitChar {d : Nat} (small : d < 16) : hexDigit (Nat.digitChar d) = d := by
  have all : ∀ d : Fin 16, hexDigit (Nat.digitChar d) = d := by decide
  exact all ⟨d, small⟩

theorem ofHexadecimal_append (digits : List Char) (c : Char) :
    ofHexadecimal (digits ++ [c]) = 16 * ofHexadecimal digits + hexDigit c := by
  rw [ofHexadecimal, List.foldl_append]
  rfl

theorem toDigits_induction {P : Nat → List Char → Prop}
    (small : ∀ d < 16, P d [Nat.digitChar d])
    (large : ∀ n d, 0 < n → d < 16 → P n (Nat.toDigits 16 n) →
      P (16 * n + d) (Nat.toDigits 16 n ++ [Nat.digitChar d])) (n : Nat) :
    P n (Nat.toDigits 16 n) := by
  induction n using Nat.strongRecOn with
  | ind n ih =>
    by_cases single : n < 16
    · rw [Nat.toDigits_of_lt_base single]
      exact small n single
    · have several : 16 ≤ n := Nat.le_of_not_lt single
      have less : n / 16 < n := Nat.div_lt_self (by omega) (by decide)
      have whole := large (n / 16) (n % 16) (Nat.div_pos several (by decide))
        (Nat.mod_lt _ (by decide)) (ih _ less)
      rwa [Nat.div_add_mod, ← Nat.toDigits_of_base_le (by decide) several] at whole

theorem ofHexadecimal_toDigits (n : Nat) : ofHexadecimal (Nat.toDigits 16 n) = n := by
  refine toDigits_induction (P := fun n digits => ofHexadecimal digits = n) ?_ ?_ n
  · intro d small
    rw [ofHexadecimal, List.foldl_cons, List.foldl_nil, hexDigit_digitChar small, Nat.mul_zero,
      Nat.zero_add]
  · intro n d _ small ih
    rw [ofHexadecimal_append, ih, hexDigit_digitChar small]

def hexadecimalDigits : List Char :=
  ['0', '1', '2', '3', '4', '5', '6', '7', '8', '9', 'a', 'b', 'c', 'd', 'e', 'f']

theorem mem_of_mem_toDigits {n : Nat} : ∀ c ∈ Nat.toDigits 16 n, c ∈ hexadecimalDigits := by
  have digit : ∀ d : Fin 16, Nat.digitChar d ∈ hexadecimalDigits := by decide
  refine toDigits_induction (P := fun _ digits => ∀ c ∈ digits, c ∈ hexadecimalDigits) ?_ ?_ n
  · intro d small c h
    cases List.mem_singleton.mp h
    exact digit ⟨d, small⟩
  · intro n d _ small ih c h
    rcases List.mem_append.mp h with h | h
    · exact ih c h
    · cases List.mem_singleton.mp h
      exact digit ⟨d, small⟩

theorem hexadecimal_injective {a b : Nat} (same : hexadecimal a = hexadecimal b) : a = b := by
  have digits := congrArg String.toList same
  rw [hexadecimal, hexadecimal, String.toList_ofList, String.toList_ofList] at digits
  rw [← ofHexadecimal_toDigits a, digits, ofHexadecimal_toDigits]

/-- The number of the character that a letter behind a backslash stands for. -/
def letterValue (c : Char) : Nat :=
  if c = 'n' then 10 else if c = 'r' then 13 else if c = 't' then 9 else c.toNat

def quotes : List Char := ['\'', '"']

/-- What shows a byte: the character itself, a letter behind a backslash, or two digits. -/
inductive Escape (mark : Char) (b : UInt8) : List Char → Prop
  | itself {c : Char} (value : c.toNat = b.toNat) (noBackslash : c ≠ '\\') (noMark : c ≠ mark) :
    Escape mark b [c]
  | letter {c : Char} (value : letterValue c = b.toNat) (noDigits : c ≠ 'x') :
    Escape mark b ['\\', c]
  | digits {high low : Char} (value : ofHexadecimal [high, low] = b.toNat) :
    Escape mark b ['\\', 'x', high, low]

section

variable {mark : Char} {b b' : UInt8}

/-- An escape determines its byte, and none begins another one. -/
theorem Escape.append_inj {piece piece' rest rest' : List Char} (escape : Escape mark b piece)
    (escape' : Escape mark b' piece') (same : piece ++ rest = piece' ++ rest') :
    b = b' ∧ rest = rest' := by
  have bytes : ∀ {m n : Nat}, m = b.toNat → n = b'.toNat → m = n → b = b' := by
    rintro m _ value value' rfl
    exact UInt8.toNat_inj.mp (value.symm.trans value')
  cases escape with
  | itself value noBackslash =>
    cases escape' with
    | itself value' =>
      cases same
      exact ⟨bytes value value' rfl, rfl⟩
    | letter | digits => exact absurd (List.cons.inj same).1 noBackslash
  | letter value noDigits =>
    cases escape' with
    | itself _ noBackslash => exact absurd (List.cons.inj same).1.symm noBackslash
    | letter value' =>
      cases same
      exact ⟨bytes value value' rfl, rfl⟩
    | digits => exact absurd (List.cons.inj (List.cons.inj same).2).1 noDigits
  | digits value =>
    cases escape' with
    | itself _ noBackslash => exact absurd (List.cons.inj same).1.symm noBackslash
    | letter _ noDigits => exact absurd (List.cons.inj (List.cons.inj same).2).1.symm noDigits
    | digits value' =>
      cases same
      exact ⟨bytes value value' rfl, rfl⟩

theorem Escape.append_ne {piece rest rest' : List Char} (quote : mark ∈ quotes)
    (escape : Escape mark b piece) : piece ++ rest ≠ mark :: rest' := by
  have backslash : '\\' ≠ mark := by
    rintro rfl
    exact absurd quote (by decide)
  intro same
  cases escape with
  | itself _ _ noMark => exact noMark (List.cons.inj same).1
  | letter | digits => exact backslash (List.cons.inj same).1

theorem escape_of_shortEscape? {c : Char} {escaped : String} (quote : mark ∈ quotes)
    (value : c.toNat = b.toNat) (h : shortEscape? mark c = some escaped) :
    Escape mark b escaped.toList := by
  have standing : ∀ m ∈ quotes, letterValue m = m.toNat ∧ m ≠ 'x' := by
    intro m quote
    simp only [quotes, List.mem_cons, List.not_mem_nil, or_false] at quote
    rcases quote with rfl | rfl <;> decide
  unfold shortEscape? at h
  split at h
  · subst c
    cases h
    rw [String.toList_ofList]
    exact .letter ((standing _ quote).1.trans value) (standing _ quote).2
  split at h
  · subst c
    cases h
    exact .letter value (by decide)
  split at h
  · subst c
    cases h
    exact .letter value (by decide)
  split at h
  · subst c
    cases h
    exact .letter value (by decide)
  split at h
  · subst c
    cases h
    exact .letter value (by decide)
  · cases h

theorem ne_of_shortEscape?_eq_none {c : Char} (h : shortEscape? mark c = none) :
    c ≠ '\\' ∧ c ≠ mark := by
  constructor
  · rintro rfl
    unfold shortEscape? at h
    split at h
    · cases h
    · cases h
  · rintro rfl
    rw [shortEscape?, if_pos rfl] at h
    cases h

theorem ofHexadecimal_padded (width n : Nat) :
    ofHexadecimal (hexadecimalPadded width n).toList = n := by
  rw [hexadecimalPadded, String.toList_ofList, ofHexadecimal, List.foldl_append]
  have zeros : ∀ k, (List.replicate k '0').foldl (fun n c => 16 * n + hexDigit c) 0 = 0 := by
    intro k
    induction k with
    | zero => rfl
    | succ k ih => rw [List.replicate_succ, List.foldl_cons]; exact ih
  rw [zeros]
  exact ofHexadecimal_toDigits n

theorem length_padded (b : UInt8) : (hexadecimalPadded 2 b.toNat).toList.length = 2 := by
  have small : b.toNat < 16 ^ 2 := b.toNat_lt
  have few := (Nat.length_toDigits_le_iff (by decide) (by decide)).mpr small
  rw [hexadecimalPadded, String.toList_ofList, List.length_append, List.length_replicate]
  omega

theorem toNat_ofNat_byte (b : UInt8) : (Char.ofNat b.toNat).toNat = b.toNat := by
  have valid : b.toNat.isValidChar := .inl (Nat.lt_trans b.toNat_lt (by decide))
  rw [Char.ofNat, dif_pos valid]
  rfl

theorem escape_escapeByte (quote : mark ∈ quotes) (b : UInt8) :
    Escape mark b (escapeByte mark b).toList := by
  have value := toNat_ofNat_byte b
  cases short : shortEscape? mark (Char.ofNat b.toNat) with
  | some escaped =>
    simp only [escapeByte, short]
    exact escape_of_shortEscape? quote value short
  | none =>
    obtain ⟨noBackslash, noMark⟩ := ne_of_shortEscape?_eq_none short
    simp only [escapeByte, short]
    split
    · rw [Char.toString, String.toList_singleton]
      exact .itself value noBackslash noMark
    · obtain ⟨high, low, digits⟩ := List.length_eq_two.mp (length_padded b)
      have padded := ofHexadecimal_padded 2 b.toNat
      rw [digits] at padded
      rw [String.toList_append, digits]
      exact .digits padded

end

theorem escaped_append_inj {mark : Char} (quote : mark ∈ quotes) {as bs : List UInt8}
    {rest rest' : List Char}
    (same : (as.flatMap fun b => (escapeByte mark b).toList) ++ mark :: rest =
      (bs.flatMap fun b => (escapeByte mark b).toList) ++ mark :: rest') :
    as = bs ∧ rest = rest' := by
  induction as generalizing bs with
  | nil =>
    cases bs with
    | nil => exact ⟨rfl, (List.cons.inj same).2⟩
    | cons b bs =>
      rw [List.flatMap_cons, List.append_assoc] at same
      exact absurd same.symm ((escape_escapeByte quote b).append_ne quote)
  | cons a as ih =>
    rw [List.flatMap_cons, List.append_assoc] at same
    cases bs with
    | nil => exact absurd same ((escape_escapeByte quote a).append_ne quote)
    | cons b bs =>
      rw [List.flatMap_cons, List.append_assoc] at same
      obtain ⟨rfl, behind⟩ :=
        (escape_escapeByte quote a).append_inj (escape_escapeByte quote b) same
      obtain ⟨rfl, rfl⟩ := ih behind
      exact ⟨rfl, rfl⟩

theorem toList_quotedBytes (bytes : List UInt8) :
    ∃ mark ∈ quotes, (quotedBytes bytes).toList =
      'b' :: mark :: ((bytes.flatMap fun b => (escapeByte mark b).toList) ++ [mark]) := by
  refine ⟨quoteMark (bytes.contains 39) (bytes.contains 34), ?_, ?_⟩
  · unfold quoteMark
    split <;> decide
  · simp [quotedBytes, List.flatMap_map, String.toList_join]

/-- The quote in use depends on the bytes, but it is the first thing that is shown. -/
theorem quotedBytes_append_inj {as bs : List UInt8} {rest rest' : String}
    (same : quotedBytes as ++ rest = quotedBytes bs ++ rest') : as = bs ∧ rest = rest' := by
  obtain ⟨mark, quote, shown⟩ := toList_quotedBytes as
  obtain ⟨mark', -, shown'⟩ := toList_quotedBytes bs
  have chars := congrArg String.toList same
  rw [String.toList_append, String.toList_append, shown, shown'] at chars
  simp only [List.cons_append, List.append_assoc, List.nil_append, List.cons.injEq,
    true_and] at chars
  obtain ⟨rfl, chars⟩ := chars
  obtain ⟨bytes, behind⟩ := escaped_append_inj quote chars
  exact ⟨bytes, String.toList_inj.mp behind⟩

end Text

namespace Reason

def unknownName (n : Nat) : String := "0x" ++ Text.hexadecimal n

theorem name_eq (r : Reason) : r.name = r.labelled names unknownName := rfl

theorem name_apart : ∀ entry ∈ names, ∀ n, entry.2 ≠ unknownName n := by
  have other : ∀ entry ∈ names, entry.2.toList.head? ≠ some '0' := by decide
  exact fun entry listed n => Text.ne_append_of_head? rfl (other entry listed)

theorem name_injective {r r' : Reason} (same : r.name = r'.name) : r = r' := by
  have distinct : ∀ a ∈ names, ∀ b ∈ names, a.2 = b.2 → a.1 = b.1 := by decide
  have numeral : ∀ {m n}, unknownName m = unknownName n → m = n := fun same =>
    Text.hexadecimal_injective ((String.append_right_inj _).mp same)
  rw [name_eq, name_eq] at same
  exact labelled_injective distinct name_apart numeral same

end Reason

end Http2Failure
