import Http2Failure.Proofs.Declared
import Http2Failure.Proofs.PayloadEquality
import Http2Failure.Proofs.Quotation
import Http2Failure.Proofs.Telling
import Http2Failure.Proofs.Texts

/-!
# What the quoted form of an error discloses

The quoted form of an error that wraps no fault shows everything that its kind holds. The name of
the class ends at an opening bracket and numbers and names of reasons at a closing one, and the
bytes of a payload end at their own quote, whatever they are. So the fields can be read off one
after the other.
-/

namespace Http2Failure

namespace Text

theorem before_inj {c : Char} {mark a b rest rest' : String} (opens : mark.toList.head? = some c)
    (inside : ∀ d ∈ a.toList, d ≠ c) (inside' : ∀ d ∈ b.toList, d ≠ c)
    (same : a ++ (mark ++ rest) = b ++ (mark ++ rest')) : a = b ∧ rest = rest' := by
  have ends : ∀ text : String, Ends (· != c) (mark ++ text).toList := by
    intro text d h
    rw [String.toList_append, List.head?_append, opens] at h
    cases h
    exact bne_self_eq_false c
  have chars : a.toList ++ (mark ++ rest).toList = b.toList ++ (mark ++ rest').toList := by
    rw [← String.toList_append, ← String.toList_append, same]
  obtain ⟨first, behind⟩ := piece_inj (fun d h => bne_iff_ne.mpr (inside d h))
    (fun d h => bne_iff_ne.mpr (inside' d h)) (ends rest) (ends rest') chars
  exact ⟨String.toList_inj.mp first, (String.append_right_inj _).mp (String.toList_inj.mp behind)⟩

theorem ne_bracket_of_mem_decimal {n : Nat} : ∀ c ∈ (decimal n).toList, c ≠ ')' := by
  rintro c h rfl
  exact absurd (isDigit_of_mem_decimal h) (by decide)

end Text

theorem Reason.ne_bracket_of_mem_name {r : Reason} : ∀ c ∈ r.name.toList, c ≠ ')' := by
  rintro c h rfl
  rw [name_eq] at h
  rcases r.labelled_cases names unknownName with ⟨-, entry⟩ | ⟨-, number⟩
  · have all : ∀ entry ∈ names, ')' ∉ entry.2.toList := by decide
    exact all _ entry h
  · rw [number, unknownName, String.toList_append, List.mem_append] at h
    rcases h with h | h
    · exact absurd h (by decide)
    · rw [Text.hexadecimal, String.toList_ofList] at h
      exact absurd (Text.mem_of_mem_toDigits _ h) (by decide)

theorem StreamId.eq_iff {i j : StreamId} : i = j ↔ (i.value : Int) = j.value := by
  cases i
  cases j
  simp only [StreamId.mk.injEq]
  omega

theorem Misuse.ofName?_name (m : Misuse) : ofName? m.name = some m := by
  cases m <;> rfl

theorem Rendering.member_inj {enumeration name name' text text' : String}
    (inside : ∀ c ∈ name.toList, c ≠ ':') (inside' : ∀ c ∈ name'.toList, c ≠ ':')
    (same : member enumeration name text = member enumeration name' text') : name = name' := by
  simp only [member, String.append_assoc, String.append_right_inj] at same
  exact (Text.before_inj rfl inside inside' same).1

inductive Disclosure where
  | reset (stream : StreamId) (reason : Reason) (side : Initiator)
  | goAway (payload : Payload)
  | reason (reason : Reason)
  | misuse (misuse : Misuse)
deriving DecidableEq

namespace Disclosure

def className : Disclosure → String
  | .reset .. => "_Reset"
  | .goAway _ => "_GoAway"
  | .reason _ => "_Reason"
  | .misuse _ => "_User"

def streamForm (i : StreamId) : String := "StreamId(" ++ Text.integer i.value ++ ")"

def reasonForm (r : Reason) : String := "Reason(" ++ r.name ++ ")"

def sideForm (i : Initiator) : String :=
  Rendering.member "Initiator" i.name (Text.quoted i.text)

def misuseForm (m : Misuse) : String := Rendering.member "UserError" m.name (Text.quoted m.text)

def fields : Disclosure → List String
  | .reset stream r side =>
    ["stream_id=" ++ streamForm stream, "reason=" ++ reasonForm r, "initiator=" ++ sideForm side]
  | .goAway p =>
    ["debug_data=" ++ Text.quotedBytes p.content, "reason=" ++ reasonForm p.reason,
      "initiator=" ++ sideForm p.side]
  | .reason r => ["reason=" ++ reasonForm r]
  | .misuse m => ["user=" ++ misuseForm m]

def kindForm (d : Disclosure) : String :=
  d.className ++ "(" ++ Rendering.separated d.fields ++ ")"

def text (d : Disclosure) : String := "Error(" ++ d.kindForm ++ ")"

theorem reasonForm_append_inj {r r' : Reason} {rest rest' : String}
    (same : reasonForm r ++ rest = reasonForm r' ++ rest') : r = r' ∧ rest = rest' := by
  simp only [reasonForm, String.append_assoc, String.append_right_inj] at same
  obtain ⟨name, behind⟩ :=
    Text.before_inj rfl Reason.ne_bracket_of_mem_name Reason.ne_bracket_of_mem_name same
  exact ⟨Reason.name_injective name, behind⟩

theorem streamForm_append_inj {i j : StreamId} {rest rest' : String}
    (same : streamForm i ++ rest = streamForm j ++ rest') : i = j ∧ rest = rest' := by
  simp only [streamForm, Text.integer_ofNat, String.append_assoc, String.append_right_inj] at same
  obtain ⟨number, behind⟩ :=
    Text.before_inj rfl Text.ne_bracket_of_mem_decimal Text.ne_bracket_of_mem_decimal same
  cases i
  cases j
  cases Text.decimal_injective number
  exact ⟨rfl, behind⟩

theorem sideForm_injective {i j : Initiator} (same : sideForm i = sideForm j) : i = j := by
  have inside : ∀ i : Initiator, ∀ c ∈ i.name.toList, c ≠ ':' := by
    intro i
    cases i <;> simp [Initiator.name]
  have name := Rendering.member_inj (inside i) (inside j) same
  cases i <;> cases j <;> first | rfl | exact absurd name (by decide)

theorem misuseForm_injective {m m' : Misuse} (same : misuseForm m = misuseForm m') : m = m' := by
  have inside : ∀ m : Misuse, ∀ c ∈ m.name.toList, c ≠ ':' := by
    intro m
    cases m <;> simp [Misuse.name]
  have member := congrArg Misuse.ofName? (Rendering.member_inj (inside m) (inside m') same)
  rw [Misuse.ofName?_name, Misuse.ofName?_name] at member
  exact Option.some.inj member

theorem separated_three (name form b c : String) :
    Rendering.separated [name ++ form, b, c] = name ++ (form ++ (", " ++ (b ++ (", " ++ c)))) := by
  have whole : Rendering.separated [name ++ form, b, c] =
      name ++ form ++ ", " ++ b ++ ", " ++ c := rfl
  rw [whole]
  simp only [String.append_assoc]

theorem reason_side_inj {r r' : Reason} {i j : Initiator}
    (same : ", " ++ ("reason=" ++ reasonForm r ++ (", " ++ ("initiator=" ++ sideForm i))) =
      ", " ++ ("reason=" ++ reasonForm r' ++ (", " ++ ("initiator=" ++ sideForm j)))) :
    r = r' ∧ i = j := by
  simp only [String.append_assoc, String.append_right_inj] at same
  obtain ⟨reason, behind⟩ := reasonForm_append_inj same
  simp only [String.append_right_inj] at behind
  exact ⟨reason, sideForm_injective behind⟩

theorem className_eq_of_kindForm {a b : Disclosure} (same : a.kindForm = b.kindForm) :
    a.className = b.className := by
  have inside : ∀ d : Disclosure, ∀ c ∈ d.className.toList, c ≠ '(' := by
    rintro (_ | _ | _ | _) <;> simp [className]
  simp only [kindForm, String.append_assoc] at same
  exact (Text.before_inj rfl (inside a) (inside b) same).1

theorem kindForm_injective {a b : Disclosure} (same : a.kindForm = b.kindForm) : a = b := by
  have name := className_eq_of_kindForm same
  rw [kindForm, kindForm, name, String.append_left_inj, String.append_right_inj] at same
  cases a with
  | reset stream r side =>
    cases b with
    | reset stream' r' side' =>
      rw [fields, fields, separated_three, separated_three, String.append_right_inj] at same
      obtain ⟨rfl, behind⟩ := streamForm_append_inj same
      obtain ⟨rfl, rfl⟩ := reason_side_inj behind
      rfl
    | _ => simp [className] at name
  | goAway p =>
    cases b with
    | goAway p' =>
      rw [fields, fields, separated_three, separated_three, String.append_right_inj] at same
      obtain ⟨content, behind⟩ := Text.quotedBytes_append_inj same
      obtain ⟨reason, side⟩ := reason_side_inj behind
      cases p
      cases p'
      cases content
      cases reason
      cases side
      rfl
    | _ => simp [className] at name
  | reason r =>
    cases b with
    | reason r' =>
      have forms : reasonForm r ++ "" = reasonForm r' ++ "" :=
        congrArg (· ++ "") ((String.append_right_inj _).mp same)
      rw [(reasonForm_append_inj forms).1]
    | _ => simp [className] at name
  | misuse m =>
    cases b with
    | misuse m' => rw [misuseForm_injective ((String.append_right_inj _).mp same)]
    | _ => simp [className] at name

theorem text_inj {a b : Disclosure} : a.text = b.text ↔ a = b := by
  constructor
  · intro same
    rw [text, text, String.append_left_inj, String.append_right_inj] at same
    exact kindForm_injective same
  · exact congrArg _

end Disclosure

namespace Kind

variable {s : Store} {κ κ' : Ref} {k k' : Kind} {a b : Disclosure}

inductive Discloses (s : Store) : Kind → Disclosure → Prop
  | reset {stream code : Ref} {i : StreamId} {r : Reason} {side : Initiator}
    (identifier : s.get? stream = some (.ofStreamId i))
    (found : s.get? code = some (.ofReason r)) (initiator : s.Untouched (.initiator side)) :
    Discloses s (.reset (.object stream) (.object code) (.initiator side)) (.reset i r side)
  | goAway {p : Payload} {code : Ref} (found : s.get? code = some (.ofReason p.reason))
    (initiator : s.Untouched (.initiator p.side)) :
    Discloses s (.ofReport (p.report code)) (.goAway p)
  | reason {code : Ref} {r : Reason} (found : s.get? code = some (.ofReason r)) :
    Discloses s (.reason (.object code)) (.reason r)
  | misuse {m : Misuse} (untouched : s.Untouched (.misuse m)) :
    Discloses s (.misuse (.misuse m)) (.misuse m)

theorem Declared.discloses (declared : k.Declared s) (noFault : k.isTransport = false) :
    ∃ a, k.Discloses s a := by
  cases declared with
  | ofFailure typed =>
    cases typed with
    | reset identifier reason initiator => exact ⟨_, .reset identifier reason initiator⟩
    | @goAway code r side data reason initiator =>
      exact ⟨_, .goAway (p := ⟨data, r, side⟩) reason initiator⟩
    | misuse untouched => exact ⟨_, .misuse untouched⟩
    | transport found => cases noFault
  | reason found => exact ⟨_, .reason found⟩

theorem Discloses.extends {t : Store} (discloses : k.Discloses s a) (more : s.Extends t) :
    k.Discloses t a := by
  cases discloses with
  | reset identifier found initiator =>
    exact .reset (more.get? identifier) (more.get? found) (more.bare initiator)
  | goAway found initiator => exact .goAway (more.get? found) (more.bare initiator)
  | reason found => exact .reason (more.get? found)
  | misuse untouched => exact .misuse (more.bare untouched)

theorem Discloses.className (discloses : k.Discloses s a) : k.record.className = a.className := by
  cases discloses <;> rfl

theorem Discloses.quoted_record (discloses : k.Discloses s a) (n : Nat) (pending : Pending) :
    k.record.quoted (s.renderUpTo (n + 2) pending) = .ok a.kindForm := by
  cases discloses with
  | reset identifier found initiator =>
    simp only [Record.quoted, record, List.mapM_cons, List.mapM_nil,
      quoted_ofStreamId identifier n pending,
      quoted_reason (Reason.ofValue_code _) found (n + 1) pending,
      Store.quoted_of_untouched rfl initiator n pending]
    rfl
  | goAway found initiator => exact Payload.quoted_record found initiator n pending "_GoAway"
  | reason found =>
    simp only [Record.quoted, record, List.mapM_cons, List.mapM_nil,
      quoted_reason (Reason.ofValue_code _) found (n + 1) pending]
    rfl
  | misuse untouched =>
    simp only [Record.quoted, record, List.mapM_cons, List.mapM_nil,
      Store.quoted_of_untouched rfl untouched n pending]
    rfl

theorem Discloses.quoted (discloses : k.Discloses s a) {e : Ref} {error : Error}
    (found : s.get? e = some (.error error)) (holds : s.kind? error.kind = some k) :
    s.quoted (.object e) = .ok a.text := by
  have shown := discloses.quoted_record (Store.depth - 4) [error.kind]
  have there : s.renderUpTo (Store.depth - 1) [] .quoted (.object error.kind) = .ok a.kindForm := by
    change s.renderUpTo (Store.depth - 2 + 1) [] .quoted (.object error.kind) = _
    simp only [Store.renderUpTo, Store.kind?_eq_some_iff.mp holds, Object.render,
      Rendering.enclosed, List.not_mem_nil, if_false]
    exact shown
  rw [Store.quoted, Store.render_object found]
  simp only [Object.render, there]
  rfl

end Kind

namespace Store

variable {s : Store} {q r : Ref} {x y : Object} {a b : Record}

theorem equalUpTo_streamId {i j : StreamId} (found : s.get? q = some (.ofStreamId i))
    (found' : s.get? r = some (.ofStreamId j)) (n : Nat) :
    s.equalUpTo (n + 2) (.object q) (.object r) = decide (i = j) := by
  rw [equalUpTo_frozen found found' rfl rfl rfl]
  simp [allEqual, same, equalUpTo_int, StreamId.eq_iff]

theorem same_or_streamId {i j : StreamId} (found : s.get? q = some (.ofStreamId i))
    (found' : s.get? r = some (.ofStreamId j)) (n : Nat) :
    (same (.object q) (.object r) || s.equalUpTo (n + 2) (.object q) (.object r)) =
      decide (i = j) := by
  rw [equalUpTo_streamId found found']
  refine Payload.same_or ?_
  rintro ⟨⟩
  have both := Option.some.inj (found.symm.trans found')
  exact StreamId.eq_iff.mpr (Value.int.inj (Object.streamId.inj both))

theorem equal_of_className_ne (found : s.get? q = some x) (found' : s.get? r = some y)
    (frozen : x.record? = some a) (frozen' : y.record? = some b)
    (name : a.className ≠ b.className) : s.equal (.object q) (.object r) = false := by
  have strange : ∀ {x y : Object} {a b : Record}, x.record? = some a → y.record? = some b →
      a.className ≠ b.className → ∀ equal, equalToObject? equal x y = none := by
    intro x y a b frozen frozen' name equal
    unfold equalToObject?
    split
    · cases frozen
    · cases frozen
    · cases frozen
    · simp only [frozen, frozen', name, if_false]
  have apart : q ≠ r := by
    rintro rfl
    cases found.symm.trans found'
    cases frozen.symm.trans frozen'
    exact name rfl
  have answer := equalUpTo_strange found found' (.inl (frozen ▸ rfl)) (.inl (frozen' ▸ rfl))
    (strange frozen frozen' name) (strange frozen' frozen name.symm) (n := depth - 1)
  exact answer.trans (decide_eq_false apart)

end Store

namespace Kind

variable {s : Store} {q r : Ref} {x y : Object} {c c' : Record} {k k' : Kind} {a b : Disclosure}

theorem Discloses.allEqual (discloses : k.Discloses s a) (discloses' : k'.Discloses s b)
    (name : k.record.className = k'.record.className) (n : Nat) :
    Store.allEqual (s.equalUpTo (n + 2)) (k.record.fields.map Prod.snd)
      (k'.record.fields.map Prod.snd) = decide (a = b) := by
  have sides (i j : Initiator) : (Store.same (.initiator i) (.initiator j) ||
      s.equalUpTo (n + 2) (.initiator i) (.initiator j)) = decide (i = j) := by
    rw [s.equalUpTo_initiator (n + 1) i j]
    exact Payload.same_or Value.initiator.inj
  cases discloses with
  | reset identifier found =>
    cases discloses' with
    | reset identifier' found' =>
      simp only [record, List.map_cons, List.map_nil, Store.allEqual, sides,
        Store.same_or_streamId identifier identifier', Payload.same_or_reason found found']
      simp
    | _ => simp [record, ofReport, Payload.report] at name
  | @goAway p code found =>
    cases discloses' with
    | @goAway p' code' found' =>
      simp only [record, ofReport, Payload.report, List.map_cons, List.map_nil, Store.allEqual,
        sides, s.equalUpTo_bytes (n + 1) p.content p'.content, Payload.same_or_reason found found']
      rw [Payload.same_or Value.bytes.inj]
      cases p
      cases p'
      simp
    | _ => simp [record, ofReport, Payload.report] at name
  | reason found =>
    cases discloses' with
    | reason found' =>
      simp only [record, List.map_cons, List.map_nil, Store.allEqual,
        Payload.same_or_reason found found']
      simp
    | _ => simp [record, ofReport, Payload.report] at name
  | misuse =>
    cases discloses' with
    | misuse =>
      simp only [record, List.map_cons, List.map_nil, Store.allEqual, s.equalUpTo_misuse (n + 1)]
      rw [Payload.same_or Value.misuse.inj]
      simp
    | _ => simp [record, ofReport, Payload.report] at name

theorem Discloses.equal (discloses : k.Discloses s a) (discloses' : k'.Discloses s b)
    (found : s.get? q = some x) (found' : s.get? r = some y) (frozen : x.record? = some c)
    (frozen' : y.record? = some c') (fields : c.fields = k.record.fields)
    (fields' : c'.fields = k'.record.fields)
    (names : c.className = c'.className ↔ k.record.className = k'.record.className) :
    s.equal (.object q) (.object r) = decide (a = b) := by
  by_cases name : c.className = c'.className
  · refine (Store.equalUpTo_frozen found found' frozen frozen' name (Store.depth - 1)).trans ?_
    rw [fields, fields']
    exact discloses.allEqual discloses' (names.mp name) (Store.depth - 3)
  · rw [Store.equal_of_className_ne found found' frozen frozen' name]
    have other : a ≠ b := by
      rintro rfl
      exact name (names.mpr (discloses.className.trans discloses'.className.symm))
    exact (decide_eq_false other).symm

theorem Discloses.equal_kinds (discloses : k.Discloses s a) (discloses' : k'.Discloses s b)
    (holds : s.kind? q = some k) (holds' : s.kind? r = some k') :
    s.equal (.object q) (.object r) = decide (a = b) :=
  discloses.equal discloses' (Store.kind?_eq_some_iff.mp holds) (Store.kind?_eq_some_iff.mp holds')
    rfl rfl rfl rfl Iff.rfl

end Kind

theorem Report.fields_eq (r : Report) : r.record.fields = (Kind.ofReport r).record.fields := by
  cases r <;> rfl

theorem Report.className_eq_iff (r r' : Report) : r.record.className = r'.record.className ↔
    (Kind.ofReport r).record.className = (Kind.ofReport r').record.className := by
  cases r <;> cases r' <;> simp [record, Kind.ofReport, Kind.record]

theorem Kind.Discloses.equal_reports {s : Store} {p q : Ref} {r r' : Report} {a b : Disclosure}
    (discloses : (Kind.ofReport r).Discloses s a) (discloses' : (Kind.ofReport r').Discloses s b)
    (found : s.get? p = some (.report r)) (found' : s.get? q = some (.report r')) :
    s.equal (.object p) (.object q) = decide (a = b) :=
  discloses.equal discloses' found found' rfl rfl r.fields_eq r'.fields_eq (r.className_eq_iff r')

namespace Error

/-- At `e` lies an error whose kind, at `κ`, has fields of the declared types and holds no fault. -/
def Legible (s : Store) (e κ : Ref) (k : Kind) : Prop :=
  ∃ error : Error, s.get? e = some (.error error) ∧ error.kind = κ ∧ s.kind? κ = some k ∧
    k.Declared s ∧ k.isTransport = false

theorem Legible.quoted {s : Store} {e κ : Ref} {k : Kind} {a : Disclosure}
    (legible : Legible s e κ k) (discloses : k.Discloses s a) :
    s.kind? κ = some k ∧ s.quoted (.object e) = .ok a.text := by
  obtain ⟨error, found, rfl, holds, -, -⟩ := legible
  exact ⟨holds, discloses.quoted found holds⟩

theorem Legible.discloses {s : Store} {e κ : Ref} {k : Kind} (legible : Legible s e κ k) :
    ∃ a, k.Discloses s a := by
  obtain ⟨-, -, -, -, declared, noFault⟩ := legible
  exact declared.discloses noFault

theorem Made.legible {base s : Store} {e : Ref} {cls : Class} {k : Kind}
    (made : Made base s e cls k) (typed : k.WellTyped s) (noFault : k.isTransport = false) :
    ∃ κ, Legible s e κ k := by
  obtain ⟨error, found, -, -, -, holds⟩ := made
  exact ⟨error.kind, error, found, rfl, holds, .ofFailure typed, noFault⟩

theorem via_report_ok {start : Session} {p : Ref} {r : Report} (cls : Class)
    (found : start.store.get? p = some (.report r))
    (typed : (Kind.ofReport r).WellTyped start.store)
    (noFault : (Kind.ofReport r).isTransport = false) :
    ∃ e after, via cls .report (.object p) start = (.ok (.object e), after) ∧
      Made start.store after.store e cls (.ofReport r) ∧ start.store.Extends after.store := by
  have path : Path start.store .report (.object p) (.ok []) (.ofReport r) := .report found
  have declared : (Kind.ofReport r).Declared (start.store.push (.kind (.ofReport r))) :=
    .ofFailure (typed.extends (Store.extends_push _ _))
  obtain ⟨v, after, run⟩ : ∃ v after, finish cls (.ok []) (.ofReport r) start = (.ok v, after) :=
    finish_ok_iff.mpr ⟨⟨_, rfl⟩, declared.plain_ok noFault (Store.depth - 1)⟩
  obtain ⟨e, rfl, made, more⟩ := made_of_finish run
  exact ⟨e, after, (path.via_apply cls).trans run, made, more⟩

end Error

/-- Two errors without a fault have the same quoted form exactly where their kinds are equal. So two
resets or terminations are equal exactly where the errors that they become have equal kinds, and
exactly where these have the same quoted form, whatever bytes the terminations hold. -/
theorem quoted_identifies :
    (∀ (s : Store) (e e' κ κ' : Ref) (k k' : Kind), Error.Legible s e κ k →
      Error.Legible s e' κ' k' →
      ∃ form form', s.quoted (.object e) = .ok form ∧ s.quoted (.object e') = .ok form' ∧
        (form = form' ↔ s.equal (.object κ) (.object κ') = true)) ∧
    ∀ (start : Session) (p q : Ref) (r r' : Report) (cls cls' : Error.Class),
      start.store.get? p = some (.report r) → start.store.get? q = some (.report r') →
      (Kind.ofReport r).WellTyped start.store → (Kind.ofReport r').WellTyped start.store →
      (Kind.ofReport r).isTransport = false → (Kind.ofReport r').isTransport = false →
      ∃ (middle after : Session) (e e' κ κ' : Ref) (form form' : String),
        Error.via cls .report (.object p) start = (.ok (.object e), middle) ∧
        Error.via cls' .report (.object q) middle = (.ok (.object e'), after) ∧
        Error.Legible after.store e κ (.ofReport r) ∧
        Error.Legible after.store e' κ' (.ofReport r') ∧
        after.store.quoted (.object e) = .ok form ∧ after.store.quoted (.object e') = .ok form' ∧
        (start.store.equal (.object p) (.object q) = true ↔
          after.store.equal (.object κ) (.object κ') = true) ∧
        (start.store.equal (.object p) (.object q) = true ↔ form = form') ∧
        (r.record.className ≠ r'.record.className →
          start.store.equal (.object p) (.object q) = false) := by
  constructor
  · intro s e e' κ κ' k k' legible legible'
    obtain ⟨a, discloses⟩ := legible.discloses
    obtain ⟨b, discloses'⟩ := legible'.discloses
    obtain ⟨holds, shown⟩ := legible.quoted discloses
    obtain ⟨holds', shown'⟩ := legible'.quoted discloses'
    refine ⟨a.text, b.text, shown, shown', ?_⟩
    rw [discloses.equal_kinds discloses' holds holds', decide_eq_true_iff]
    exact Disclosure.text_inj
  · intro start p q r r' cls cls' found found' typed typed' noFault noFault'
    obtain ⟨e, middle, run, made, more⟩ := Error.via_report_ok cls found typed noFault
    obtain ⟨e', after, run', made', more'⟩ :=
      Error.via_report_ok cls' (more.get? found') (typed'.extends more) noFault'
    have whole := more.trans more'
    obtain ⟨κ, legible⟩ := (made.extends more').legible (typed.extends whole) noFault
    obtain ⟨κ', legible'⟩ := made'.legible (typed'.extends whole) noFault'
    -- Reports and kinds are compared by what they disclose, which the new objects do not change.
    obtain ⟨a, discloses⟩ := (Kind.Declared.ofFailure typed).discloses noFault
    obtain ⟨b, discloses'⟩ := (Kind.Declared.ofFailure typed').discloses noFault'
    obtain ⟨holds, shown⟩ := legible.quoted (discloses.extends whole)
    obtain ⟨holds', shown'⟩ := legible'.quoted (discloses'.extends whole)
    have reports := discloses.equal_reports discloses' found found'
    have kinds := (discloses.extends whole).equal_kinds (discloses'.extends whole) holds holds'
    refine ⟨middle, after, e, e', κ, κ', a.text, b.text, run, run', legible, legible', shown,
      shown', ?_, ?_, ?_⟩
    · rw [reports, kinds]
    · rw [reports, decide_eq_true_iff]
      exact Disclosure.text_inj.symm
    · exact Store.equal_of_className_ne found found' rfl rfl

/-- Payloads of one quote each, of which one is shown between the other. -/
theorem quoted_identifies_quotes :
    let report := Report.goAway (.bytes [39]) (.object 8) (.initiator .peer)
    let report' := Report.goAway (.bytes [34]) (.object 8) (.initiator .peer)
    let base := (Store.initial.push (.report report)).push (.report report')
    ∃ (after : Session) (e e' κ κ' : Ref) (form form' : String),
      Error.Legible after.store e κ (.ofReport report) ∧
      Error.Legible after.store e' κ' (.ofReport report') ∧
      after.store.quoted (.object e) = .ok form ∧ after.store.quoted (.object e') = .ok form' ∧
      base.equal (.object 16) (.object 17) = false ∧
      after.store.equal (.object κ) (.object κ') = false ∧ form ≠ form' := by
  intro report report' base
  have typed : (Kind.ofReport report).WellTyped base :=
    .goAway (r := ⟨8, by decide⟩) [39] (by decide) (by decide)
  have typed' : (Kind.ofReport report').WellTyped base :=
    .goAway (r := ⟨8, by decide⟩) [34] (by decide) (by decide)
  obtain ⟨kinds, reports⟩ := quoted_identifies
  obtain ⟨_, after, e, e', κ, κ', form, form', -, -, legible, legible', shown, shown', same, forms,
    -⟩ := reports ⟨base, []⟩ 16 17 report report' .base .base rfl rfl typed typed' rfl rfl
  have apart : ¬ base.equal (.object 16) (.object 17) = true := by decide
  have other : form ≠ form' := fun h => apart (forms.mpr h)
  obtain ⟨_, _, again, again', iff⟩ := kinds after.store e e' κ κ' _ _ legible legible'
  cases shown.symm.trans again
  cases shown'.symm.trans again'
  exact ⟨after, e, e', κ, κ', form, form', legible, legible', shown, shown',
    Bool.not_eq_true _ ▸ apart, Bool.not_eq_true _ ▸ fun h => other (iff.mpr h), other⟩

end Http2Failure
