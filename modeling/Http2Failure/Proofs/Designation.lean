import Http2Failure.Proofs.Action
import Http2Failure.Proofs.Integrity
import Http2Failure.Proofs.Naming
import Http2Failure.Proofs.PayloadEquality
import Http2Failure.Proofs.Quotation

/-!
# What tells one reason from another

A reason shows its code by a name, by a description and in its quoted form, and each of them
determines the code. A known code is shown by words, and the class has a constant for it
under its name. Any other code is shown by a numeral, from which it can be read back.
-/

namespace Http2Failure

namespace Text

/-- Lower case hexadecimal digits, with no zero in front, that are read as the number. -/
structure IsHexadecimal (digits : List Char) (n : Nat) : Prop where
  nonempty : digits ≠ []
  lowerCase : ∀ c ∈ digits, c ∈ hexadecimalDigits
  noLeadingZero : digits.head? ≠ some '0'
  value : ofHexadecimal digits = n

theorem head?_toDigits_ne {n : Nat} (positive : 0 < n) :
    (Nat.toDigits 16 n).head? ≠ some '0' := by
  have digit : ∀ d : Fin 16, Nat.digitChar d = '0' → d.val = 0 := by decide
  refine toDigits_induction (P := fun n digits => 0 < n → digits.head? ≠ some '0') ?_ ?_ n positive
  · intro d small positive zero
    have nought : d = 0 := digit ⟨d, small⟩ (Option.some.inj zero)
    omega
  · intro n d positive _ ih _
    rw [List.head?_append_of_ne_nil _ Nat.toDigits_ne_nil]
    exact ih positive

theorem isHexadecimal_toDigits {n : Nat} (positive : 0 < n) :
    IsHexadecimal (Nat.toDigits 16 n) n where
  nonempty := Nat.toDigits_ne_nil
  lowerCase := mem_of_mem_toDigits
  noLeadingZero := head?_toDigits_ne positive
  value := ofHexadecimal_toDigits n

end Text

namespace Reason

structure Appearance where
  name : String
  description : String
  quoted : String
  known : Bool

/-- The appearance of the reason behind a value. No attribute may stand in the place of the method
that tells whether the code is known. -/
structure Shows (now : Session) (v : Value) (a : Appearance) : Prop where
  name : Action.get v "name" now = (.ok (.text a.name), now)
  description : Action.get v "description" now = (.ok (.text a.description), now)
  plain : now.store.plain v = .ok a.description
  quoted : now.store.quoted v = .ok a.quoted
  known : now.store.hiding? v "is_known" = none →
    Action.call v "is_known" [] now = (.ok (.bool a.known), now)

def HasConstant (now : Session) (name : String) (place : Ref) : Prop :=
  Script.Expr.eval [] (.reasonNamed name) now = (.ok (.object place), now)

def appearance (r : Reason) : Appearance where
  name := r.name
  description := r.description
  quoted := "Reason(" ++ r.name ++ ")"
  known := r.isKnown

variable {now : Session} {q place : Ref} {r r' : Reason} {name : String}

theorem getAttribute_of_found (found : now.store.get? q = some (.ofReason r))
    (computed : name ∈ (Object.ofReason r).computed) :
    Action.getAttribute (.object q) name now =
      ((now.store.reasonAttribute? (.int r.code) name).getD (.error (.noAttribute "Reason" name)),
        now) := by
  have there : now.store.object? (.object q) = some (.ofReason r) := found
  have nothing : now.store.extra? (.object q) (.ofReason r) name = none :=
    if_neg fun shown => shown.2 computed
  simp only [Action.getAttribute, Action.bind_apply, Action.ask_apply, there]
  change ((now.store.extra? (.object q) (.ofReason r) name).elim _ Except.ok, now) = _
  rw [nothing]
  rfl

theorem get_of_found (found : now.store.get? q = some (.ofReason r))
    (common : name ∉ Action.commonNames) (sort : name ∉ Action.sortNames)
    (route : Error.Route.ofMethod? name = none) :
    Action.get (.object q) name now = Action.getAttribute (.object q) name now := by
  have there : now.store.object? (.object q) = some (.ofReason r) := found
  exact Action.get_of_no_method there (Action.method?_of_other common sort route _ _ _)

theorem reasonAttribute?_name (s : Store) (code : Value) :
    s.reasonAttribute? code "name" = some ((nameOf s code).map .text) := rfl

theorem reasonAttribute?_description (s : Store) (code : Value) :
    s.reasonAttribute? code "description" = some ((descriptionOf s s.plain code).map .text) := rfl

theorem method?_is_known (call : Caller) (q : Ref) (code : Value) :
    Action.method? call (.object q) (some (.reason code)) "is_known" =
      some (Action.noArguments "Reason" "is_known" do
        return .bool (← Action.read fun s => isKnownOf s code)) := rfl

theorem noArguments_read {owner method : String} {f : Store → Except Refusal Bool} {answer : Bool}
    (answers : f now.store = .ok answer) :
    Action.noArguments owner method (do return .bool (← Action.read f)) [] now =
      (.ok (.bool answer), now) := by
  simp only [Action.noArguments, List.isEmpty_nil, if_true, Action.bind_apply, Action.read_apply,
    answers, Action.pure_apply]

theorem nameOf_of_ok {v : Value} (checked : ofValue v = .ok r) (s : Store) :
    nameOf s v = .ok r.name := by
  simp only [nameOf, checked]

theorem descriptionOf_of_ok {v : Value} (checked : ofValue v = .ok r) (s : Store)
    (plain : Value → Except Refusal String) : descriptionOf s plain v = .ok r.description := by
  simp only [descriptionOf, checked]

theorem isKnownOf_of_ok {v : Value} (checked : ofValue v = .ok r) (s : Store) :
    isKnownOf s v = .ok r.isKnown := by
  simp only [isKnownOf, checked]

theorem call_is_known (found : now.store.get? q = some (.ofReason r))
    (visible : now.store.hiding? (.object q) "is_known" = none) :
    Action.call (.object q) "is_known" [] now = (.ok (.bool r.isKnown), now) := by
  have there : now.store.object? (.object q) = some (.reason (.int r.code)) := found
  have own (call : Caller) := method?_is_known call q (.int r.code)
  rw [Action.call_of_method there own visible]
  exact noArguments_read (isKnownOf_of_ok (ofValue_code r) now.store)

theorem shows_of_found (found : now.store.get? q = some (.ofReason r)) :
    Shows now (.object q) r.appearance where
  name := by
    rw [get_of_found found (by decide) (by decide) (by decide),
      getAttribute_of_found found (by simp [Object.ofReason, Object.computed]),
      reasonAttribute?_name, nameOf_of_ok (ofValue_code r)]
    rfl
  description := by
    rw [get_of_found found (by decide) (by decide) (by decide),
      getAttribute_of_found found (by simp [Object.ofReason, Object.computed]),
      reasonAttribute?_description, descriptionOf_of_ok (ofValue_code r)]
    rfl
  plain := plain_reason (ofValue_code r) found _ _
  quoted := quoted_reason (ofValue_code r) found _ _
  known := call_is_known found

theorem isKnown_eq (r : Reason) : r.isKnown = (descriptions.lookup r.code).isSome := by
  have listed : ∀ {table : List (Nat × String)} {code : Nat},
      (table.lookup code).isSome ↔ code ∈ table.map Prod.fst := by simp
  rw [isKnown, Bool.eq_iff_iff, listed, listed, codes_eq]

theorem quoted_injective (same : r.appearance.quoted = r'.appearance.quoted) : r = r' :=
  name_injective ((String.append_right_inj _).mp ((String.append_left_inj _).mp same))

theorem codeOfName?_eq_some_iff : codeOfName? name = some place ↔
    ∃ r : Reason, r.isKnown = true ∧ r.code = place ∧ r.name = name := by
  have listed : ∀ entry ∈ names, codeOfName? entry.2 = some entry.1 := by decide
  have declared : ∀ entry ∈ names, ∃ r : Reason, r.isKnown = true ∧ r.code = entry.1 ∧
      r.name = entry.2 := by
    intro entry here
    have bound := Nat.lt_trans (lt_of_mem_names here) (by decide : names.length < 0x100000000)
    refine ⟨⟨entry.1, bound⟩, ?_⟩
    revert entry
    decide
  constructor
  · intro named
    obtain ⟨entry, found, rfl⟩ := Option.map_eq_some_iff.mp named
    obtain ⟨r, known, code, same⟩ := declared entry (List.mem_of_find?_eq_some found)
    have named := List.find?_some found
    exact ⟨r, known, code, same.trans (beq_iff_eq.mp named)⟩
  · rintro ⟨r, known, rfl, rfl⟩
    exact listed _ (mem_names_of_isKnown known)

theorem hasConstant_iff : HasConstant now name place ↔ codeOfName? name = some place := by
  have notNamed : codeOfName? "MAX_CODE" = none := by decide
  simp only [HasConstant, Script.Expr.eval]
  by_cases limit : name = "MAX_CODE"
  · subst limit
    simp [notNamed]
  · rw [if_neg limit]
    cases codeOfName? name with
    | none => simp
    | some code => simp

theorem equal_constant_iff (stands : now.store.ConstantsStand)
    (found : now.store.get? q = some (.ofReason r)) (named : HasConstant now name place) :
    now.store.equal (.object place) (.object q) = true ↔ name = r.name := by
  obtain ⟨r', known, rfl, rfl⟩ := codeOfName?_eq_some_iff.mp (hasConstant_iff.mp named)
  have answer := Payload.equalUpTo_reason (stands r' known) found (Store.depth - 2)
  refine (Bool.eq_iff_iff.mp answer).trans (decide_eq_true_iff.trans ?_)
  exact ⟨congrArg Reason.name, name_injective⟩

theorem known_iff_constant (stands : now.store.ConstantsStand)
    (found : now.store.get? q = some (.ofReason r)) :
    r.isKnown = true ↔ ∃ place, HasConstant now r.name place ∧
      now.store.equal (.object place) (.object q) = true := by
  constructor
  · intro known
    have named : HasConstant now r.name r.code :=
      hasConstant_iff.mpr (codeOfName?_eq_some_iff.mpr ⟨r, known, rfl, rfl⟩)
    exact ⟨r.code, named, (equal_constant_iff stands found named).mpr rfl⟩
  · rintro ⟨place, named, -⟩
    obtain ⟨r', known, -, same⟩ := codeOfName?_eq_some_iff.mp (hasConstant_iff.mp named)
    rwa [← name_injective same]

theorem known_iff_described :
    r.isKnown = true ↔ ¬ ∃ n, r.description = "unknown reason code: " ++ Text.decimal n :=
  (isKnown_eq r ▸ listed_iff_labelled description_apart)

theorem numerals_of_unknown (unknown : r.isKnown = false) :
    (∃ digits, r.name = "0x" ++ String.ofList digits ∧ Text.IsHexadecimal digits r.code) ∧
      ∃ digits, r.description = "unknown reason code: " ++ String.ofList digits ∧
        Text.natural? digits = some r.code := by
  have unnamed : names.lookup r.code = none :=
    Option.isNone_iff_eq_none.mp (Option.isSome_eq_false_iff.mp unknown)
  have undescribed : descriptions.lookup r.code = none := by
    rw [isKnown_eq] at unknown
    exact Option.isNone_iff_eq_none.mp (Option.isSome_eq_false_iff.mp unknown)
  have positive : 0 < r.code := Nat.pos_of_ne_zero fun zero => by
    rw [zero] at unnamed
    cases unnamed
  refine ⟨⟨Nat.toDigits 16 r.code, ?_, Text.isHexadecimal_toDigits positive⟩,
    Nat.toDigits 10 r.code, ?_, Text.natural?_toDigits r.code⟩
  · rw [name_eq, labelled_of_unlisted unnamed]
    rfl
  · rw [description_eq, labelled_of_unlisted undescribed]
    rfl

end Reason

theorem Reason.make_of_le {code : Int} (lower : 0 ≤ code) (upper : code ≤ 0xffffffff)
    (now : Session) : ∃ r : Reason, (r.code : Int) = code ∧
      Action.make (.reason (.int code)) now =
        (.ok (.object now.store.size), { now with store := now.store.push (.ofReason r) }) := by
  obtain ⟨r, rfl⟩ : ∃ r : Reason, (r.code : Int) = code :=
    ⟨⟨code.toNat, by omega⟩, Int.toNat_of_nonneg lower⟩
  exact ⟨r, rfl, Action.make_of_checked (Object.checked_of_formed (Object.formed_ofReason r))⟩

/-- For every code of 32 bits a reason can be made. Two reasons have the same code exactly where
they have the same name, the same description, and the same quoted form. As long as the constants of
the class hold the codes that they were declared with, a code is known exactly where the class has
an equal constant under the name of the reason, and there is none under another name. It is also
known exactly where the description does not give a number. A code that is not known is what its
name, in base sixteen, and its description, in base ten, are read as. -/
theorem code_designated :
    (∀ (now : Session) (code : Int), 0 ≤ code → code ≤ 0xffffffff →
      ∃ r : Reason, (r.code : Int) = code ∧ Action.make (.reason (.int code)) now =
        (.ok (.object now.store.size), { now with store := now.store.push (.ofReason r) })) ∧
    (∀ (now : Session) (q q' : Ref) (r r' : Reason), now.store.get? q = some (.ofReason r) →
      now.store.get? q' = some (.ofReason r') →
      ∃ a a', Reason.Shows now (.object q) a ∧ Reason.Shows now (.object q') a' ∧
        (r.code = r'.code ↔ a.name = a'.name) ∧
        (a.name = a'.name ↔ a.description = a'.description) ∧
        (a.description = a'.description ↔ a.quoted = a'.quoted)) ∧
    ∀ (now : Session) (q : Ref) (r : Reason), now.store.get? q = some (.ofReason r) →
      ∃ a, Reason.Shows now (.object q) a ∧
        (now.store.ConstantsStand →
          (a.known = true ↔ ∃ place, Reason.HasConstant now a.name place ∧
            now.store.equal (.object place) (.object q) = true) ∧
          ∀ name place, Reason.HasConstant now name place →
            (now.store.equal (.object place) (.object q) = true ↔ name = a.name)) ∧
        (a.known = true ↔ ¬ ∃ n, a.description = "unknown reason code: " ++ Text.decimal n) ∧
        (a.known = false →
          (∃ digits, a.name = "0x" ++ String.ofList digits ∧ Text.IsHexadecimal digits r.code) ∧
          ∃ digits, a.description = "unknown reason code: " ++ String.ofList digits ∧
            Text.natural? digits = some r.code) := by
  refine ⟨fun now code lower upper => Reason.make_of_le lower upper now, ?_, ?_⟩
  · intro now q q' r r' found found'
    refine ⟨r.appearance, r'.appearance, Reason.shows_of_found found,
      Reason.shows_of_found found', ?_⟩
    have named : r.name = r'.name ↔ r = r' := ⟨Reason.name_injective, congrArg _⟩
    have described : r.description = r'.description ↔ r = r' :=
      ⟨Reason.description_injective, congrArg _⟩
    have quoted : r.appearance.quoted = r'.appearance.quoted ↔ r = r' :=
      ⟨Reason.quoted_injective, congrArg fun r : Reason => r.appearance.quoted⟩
    have coded : r.code = r'.code ↔ r = r' := ⟨Reason.ext_code, congrArg _⟩
    exact ⟨coded.trans named.symm, named.trans described.symm, described.trans quoted.symm⟩
  · intro now q r found
    refine ⟨r.appearance, Reason.shows_of_found found, fun stands => ?_,
      Reason.known_iff_described, Reason.numerals_of_unknown⟩
    exact ⟨Reason.known_iff_constant stands found,
      fun name place named => Reason.equal_constant_iff stands found named⟩

/-- An extension code next to a known one. -/
theorem code_designated_extension :
    let now : Session := ⟨(Store.initial.push (.reason (.int 42))).push (.reason (.int 8)), []⟩
    (∃ r : Reason, (r.code : Int) = 42 ∧ Action.make (.reason (.int 42)) .initial =
      (.ok (.object 16), ⟨Store.initial.push (.ofReason r), []⟩)) ∧
    (∃ a a', Reason.Shows now (.object 16) a ∧ Reason.Shows now (.object 17) a' ∧
      a.name ≠ a'.name ∧ a.description ≠ a'.description ∧ a.quoted ≠ a'.quoted) ∧
    (Action.call (.object 16) "is_known" [] now = (.ok (.bool false), now) ∧
      ∃ a, Reason.Shows now (.object 16) a ∧ a.known = false ∧
        ∃ digits, a.name = "0x" ++ String.ofList digits ∧ Text.IsHexadecimal digits 42) ∧
    ∃ a, Reason.Shows now (.object 17) a ∧ a.known = true ∧ a.name = "CANCEL" ∧
      ∃ place, Reason.HasConstant now a.name place ∧
        now.store.equal (.object place) (.object 17) = true := by
  intro now
  obtain ⟨made, pairs, each⟩ := code_designated
  let extension : Reason := ⟨42, by decide⟩
  let cancel : Reason := ⟨8, by decide⟩
  have found : now.store.get? 16 = some (.ofReason extension) := by decide
  have found' : now.store.get? 17 = some (.ofReason cancel) := by decide
  refine ⟨made .initial 42 (by decide) (by decide), ?_, ?_, ?_⟩
  · obtain ⟨a, a', shows, shows', named, described, quoted⟩ := pairs now 16 17 _ _ found found'
    have apart : extension.code ≠ cancel.code := by decide
    have names : a.name ≠ a'.name := fun same => apart (named.mpr same)
    have descriptions : a.description ≠ a'.description := fun same => names (described.mpr same)
    exact ⟨a, a', shows, shows', names, descriptions, fun same => descriptions (quoted.mpr same)⟩
  · obtain ⟨a, shows, -, described, numerals⟩ := each now 16 _ found
    have text : now.store.plain (.object 16) =
        .ok ("unknown reason code: " ++ Text.decimal 42) := by decide +kernel
    have unknown : a.known = false := by
      refine Bool.not_eq_true _ ▸ fun known => described.mp known ⟨42, ?_⟩
      exact Except.ok.inj (shows.plain.symm.trans text)
    exact ⟨unknown ▸ shows.known rfl, a, shows, unknown, (numerals unknown).1⟩
  · obtain ⟨a, shows, constants, described, -⟩ := each now 17 _ found'
    have text : now.store.plain (.object 17) = .ok "cancel" := by decide +kernel
    have description : a.description = "cancel" := Except.ok.inj (shows.plain.symm.trans text)
    have known : a.known = true := described.mpr fun ⟨n, same⟩ =>
      Text.ne_append_of_head? (c := 'u') rfl (by decide) (description.symm.trans same)
    obtain ⟨constant, only⟩ := constants
      (Store.initial_constantsStand.keepsFrozen
        ((Store.keepsFrozen_push _ _).trans (Store.keepsFrozen_push _ _) fun _ => id)
        fun _ _ => rfl)
    have same := (only "CANCEL" 8 rfl).mp (by decide +kernel)
    exact ⟨a, shows, known, same.symm, constant.mp known⟩

end Http2Failure
