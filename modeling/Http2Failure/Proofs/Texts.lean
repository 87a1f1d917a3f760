import Http2Failure.Enumeration
import Http2Failure.ProtocolValue
import Http2Failure.Rendering

/-!
# Texts that can be read back

A text that is put together from pieces determines them where each piece ends at the first
character that it cannot hold itself. Descriptions of reasons hold no bracket, names of sides no
colon, and decimal numbers nothing but digits.
-/

namespace Http2Failure

namespace Text

section

variable {p : Char → Bool}

/-- A rest that does not go on with a character of the piece before it. -/
def Ends (p : Char → Bool) (rest : List Char) : Prop := ∀ c ∈ rest.head?, p c = false

theorem takeWhile_of_ends {piece rest : List Char} (inside : ∀ c ∈ piece, p c = true)
    (ends : Ends p rest) : (piece ++ rest).takeWhile p = piece := by
  rw [List.takeWhile_append_of_pos inside]
  cases rest with
  | nil => rw [List.takeWhile_nil, List.append_nil]
  | cons c rest => rw [List.takeWhile_cons_of_neg (by simp [ends c rfl]), List.append_nil]

theorem piece_inj {piece piece' rest rest' : List Char} (inside : ∀ c ∈ piece, p c = true)
    (inside' : ∀ c ∈ piece', p c = true) (ends : Ends p rest) (ends' : Ends p rest')
    (same : piece ++ rest = piece' ++ rest') : piece = piece' ∧ rest = rest' := by
  have first : piece = piece' := by
    rw [← takeWhile_of_ends inside ends, same, takeWhile_of_ends inside' ends']
  subst first
  exact ⟨rfl, List.append_cancel_left same⟩

end

theorem ne_append_of_head? {c : Char} {mark text rest : String}
    (begins : mark.toList.head? = some c) (other : text.toList.head? ≠ some c) :
    text ≠ mark ++ rest := by
  rintro rfl
  rw [String.toList_append, List.head?_append, begins] at other
  exact other rfl

theorem isDigit_of_mem_decimal {n : Nat} {c : Char} (h : c ∈ (decimal n).toList) :
    c.isDigit = true := by
  rw [decimal, String.toList_ofList] at h
  exact Nat.isDigit_of_mem_toDigits (by decide) (by decide) h

theorem integer_ofNat (n : Nat) : integer n = decimal n := by
  rw [integer, if_neg (by omega), Int.natAbs_natCast]

def remaining : List Nat → List Char
  | [] => [']']
  | n :: rest => ',' :: ' ' :: ((decimal n).toList ++ remaining rest)

theorem ends_remaining (ns : List Nat) : Ends Char.isDigit (remaining ns) := by
  cases ns <;> rintro c ⟨⟩ <;> decide

theorem remaining_injective : ∀ {ns ms : List Nat}, remaining ns = remaining ms → ns = ms
  | [], [], _ => rfl
  | [], _ :: _, same => by simp [remaining] at same
  | _ :: _, [], same => by simp [remaining] at same
  | n :: ns, m :: ms, same => by
    have same : (decimal n).toList ++ remaining ns = (decimal m).toList ++ remaining ms :=
      (List.cons.inj (List.cons.inj same).2).2
    obtain ⟨first, rest⟩ := piece_inj (fun _ => isDigit_of_mem_decimal)
      (fun _ => isDigit_of_mem_decimal) (ends_remaining ns) (ends_remaining ms) same
    rw [decimal_injective (String.toList_inj.mp first), remaining_injective rest]

def first : List Nat → List Char
  | [] => []
  | n :: _ => (decimal n).toList

theorem first_isDigit {ns : List Nat} : ∀ c ∈ first ns, c.isDigit = true := by
  cases ns with
  | nil => nofun
  | cons n ns => exact fun _ => isDigit_of_mem_decimal

theorem toList_listForm (ns : List Nat) :
    (Rendering.listForm (ns.map decimal)).toList = '[' :: (first ns ++ remaining ns.tail) := by
  have separated : (Rendering.separated (ns.map decimal)).toList ++ [']'] =
      first ns ++ remaining ns.tail := by
    induction ns with
    | nil => rfl
    | cons n ns ih =>
      cases ns with
      | nil => simp [Rendering.separated, first, remaining]
      | cons m ns =>
        simp only [Rendering.separated, String.toList_intercalate, List.map_cons] at ih ⊢
        rw [List.intercalate_cons_cons, List.append_assoc, ih]
        simp [first, remaining]
  rw [Rendering.listForm, String.toList_append, String.toList_append, List.append_assoc]
  exact congrArg _ separated

theorem listForm_decimal_injective {ns ms : List Nat}
    (same : Rendering.listForm (ns.map decimal) = Rendering.listForm (ms.map decimal)) :
    ns = ms := by
  have shown : '[' :: (first ns ++ remaining ns.tail) = '[' :: (first ms ++ remaining ms.tail) := by
    rw [← toList_listForm, ← toList_listForm, same]
  obtain ⟨head, tail⟩ := piece_inj first_isDigit first_isDigit (ends_remaining _)
    (ends_remaining _) (List.cons.inj shown).2
  have tail := remaining_injective tail
  have something : ∀ n, (decimal n).toList ≠ [] := fun n none =>
    Nat.toDigits_ne_nil (by rwa [decimal, String.toList_ofList] at none)
  cases ns with
  | nil =>
    cases ms with
    | nil => rfl
    | cons m _ => exact absurd head.symm (something m)
  | cons n _ =>
    cases ms with
    | nil => exact absurd head (something n)
    | cons m _ => exact congr (congrArg _ (decimal_injective (String.toList_inj.mp head))) tail

end Text

namespace Reason

theorem ext_code {r r' : Reason} (same : r.code = r'.code) : r = r' := by
  cases r
  cases r'
  cases same
  rfl

/-- What a table has for the code, and what is made of the number where it has nothing. -/
def labelled (table : List (Nat × String)) (form : Nat → String) (r : Reason) : String :=
  (table.lookup r.code).getD (form r.code)

section

variable {table : List (Nat × String)} {form : Nat → String} {r r' : Reason}

theorem labelled_of_unlisted (unlisted : table.lookup r.code = none) :
    r.labelled table form = form r.code := by
  rw [labelled, unlisted, Option.getD_none]

/-- The label is that of an entry for the code, or made of the number. -/
theorem labelled_cases (table : List (Nat × String)) (form : Nat → String) (r : Reason) :
    ((table.lookup r.code).isSome ∧ (r.code, r.labelled table form) ∈ table) ∨
      (table.lookup r.code = none ∧ r.labelled table form = form r.code) := by
  cases found : table.lookup r.code with
  | none => exact .inr ⟨rfl, labelled_of_unlisted found⟩
  | some text =>
    obtain ⟨before, after, rfl, -⟩ := List.lookup_eq_some_iff.mp found
    refine .inl ⟨rfl, ?_⟩
    rw [labelled, found, Option.getD_some]
    exact List.mem_append_right before List.mem_cons_self

theorem listed_iff_labelled (apart : ∀ entry ∈ table, ∀ n, entry.2 ≠ form n) :
    (table.lookup r.code).isSome ↔ ¬ ∃ n, r.labelled table form = form n := by
  rcases r.labelled_cases table form with ⟨listed, entry⟩ | ⟨unlisted, same⟩
  · exact iff_of_true listed fun ⟨n, same⟩ => apart _ entry n same
  · exact iff_of_false (by simp [unlisted]) fun other => other ⟨r.code, same⟩

/-- Labels that are all different, and that no number has the form of, tell the codes apart. -/
theorem labelled_injective (distinct : ∀ a ∈ table, ∀ b ∈ table, a.2 = b.2 → a.1 = b.1)
    (apart : ∀ entry ∈ table, ∀ n, entry.2 ≠ form n)
    (numeral : ∀ {m n}, form m = form n → m = n)
    (same : r.labelled table form = r'.labelled table form) : r = r' := by
  apply ext_code
  rcases r.labelled_cases table form with ⟨-, entry⟩ | ⟨-, number⟩ <;>
    rcases r'.labelled_cases table form with ⟨-, entry'⟩ | ⟨-, number'⟩
  · exact distinct _ entry _ entry' same
  · exact absurd (same.trans number') (apart _ entry _)
  · exact absurd (same.symm.trans number) (apart _ entry' _)
  · exact numeral (number.symm.trans (same.trans number'))

end

def unknownForm (n : Nat) : String := "unknown reason code: " ++ Text.decimal n

theorem toList_unknownForm (n : Nat) :
    (unknownForm n).toList = "unknown reason code: ".toList ++ (Text.decimal n).toList :=
  String.toList_append

theorem description_eq (r : Reason) : r.description = r.labelled descriptions unknownForm := rfl

theorem description_apart : ∀ entry ∈ descriptions, ∀ n, entry.2 ≠ unknownForm n := by
  have other : ∀ entry ∈ descriptions, entry.2.toList.head? ≠ some 'u' := by decide
  exact fun entry listed n => Text.ne_append_of_head? rfl (other entry listed)

theorem description_injective {r r' : Reason} (same : r.description = r'.description) : r = r' := by
  have distinct : ∀ a ∈ descriptions, ∀ b ∈ descriptions, a.2 = b.2 → a.1 = b.1 := by decide
  have numeral : ∀ {m n}, unknownForm m = unknownForm n → m = n := fun same =>
    Text.decimal_injective ((String.append_right_inj _).mp same)
  rw [description_eq, description_eq] at same
  exact labelled_injective distinct description_apart numeral same

theorem ne_bracket_of_mem_description {r : Reason} {c : Char} (h : c ∈ r.description.toList) :
    c ≠ '(' := by
  rintro rfl
  rw [description_eq] at h
  rcases r.labelled_cases descriptions unknownForm with ⟨-, entry⟩ | ⟨-, number⟩
  · have all : ∀ entry ∈ descriptions, '(' ∉ entry.2.toList := by decide
    exact all _ entry h
  · rw [number, toList_unknownForm, List.mem_append] at h
    rcases h with h | h
    · exact absurd h (by decide)
    · exact absurd (Text.isDigit_of_mem_decimal h) (by decide)

end Reason

theorem Initiator.ofText?_text (i : Initiator) : ofText? i.text = some i := by
  cases i <;> rfl

theorem Misuse.ofText?_text (m : Misuse) : ofText? m.text = some m := by
  cases m <;> rfl

end Http2Failure
