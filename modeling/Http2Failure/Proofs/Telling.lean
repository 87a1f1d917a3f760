import Http2Failure.Proofs.Declared
import Http2Failure.Proofs.PayloadEquality
import Http2Failure.Proofs.Texts

/-!
# What the text of an error tells

The text of an error that wraps no fault tells of which variant its kind is and what the kind holds,
but for the stream of a reset. The variants begin with different letters. Within one of them, the
name of a side ends at a colon and a description before a bracket, where the numbers of a payload
begin.
-/

namespace Http2Failure

namespace Kind

/-- Kinds of one variant with equal fields, where the stream of a reset does not count. -/
def agreesButStream (s : Store) : Kind → Kind → Bool
  | .reset _ code side, .reset _ code' side' => s.equal code code' && s.equal side side'
  | .goAway data code side, .goAway data' code' side' =>
    s.equal data data' && (s.equal code code' && s.equal side side')
  | .reason code, .reason code' => s.equal code code'
  | .misuse m, .misuse m' => s.equal m m'
  | .transport fault, .transport fault' => s.equal fault fault'
  | _, _ => false

end Kind

/-- What the text of an error tells of its kind. -/
inductive Telling where
  | reset (reason : Reason) (side : Initiator)
  | goAway (payload : Payload)
  | reason (reason : Reason)
  | misuse (misuse : Misuse)
deriving DecidableEq

theorem Initiator.text_append_injective {i j : Initiator} {rest rest' : String}
    (same : i.text ++ ": " ++ rest = j.text ++ ": " ++ rest') : i = j ∧ rest = rest' := by
  have colon : ∀ i : Initiator, ∀ c ∈ i.text.toList, (c != ':') = true := by
    intro i
    rw [← List.all_eq_true]
    cases i <;> rfl
  have split : i.text.toList ++ (": ".toList ++ rest.toList) =
      j.text.toList ++ (": ".toList ++ rest'.toList) := by
    simpa only [String.toList_append, List.append_assoc] using congrArg String.toList same
  obtain ⟨name, rest⟩ := Text.piece_inj (colon i) (colon j) (by rintro c ⟨⟩; rfl)
    (by rintro c ⟨⟩; rfl) split
  have member := congrArg ofText? (String.toList_inj.mp name)
  rw [ofText?_text, ofText?_text] at member
  exact ⟨Option.some.inj member, String.toList_inj.mp (List.append_cancel_left rest)⟩

namespace Payload

def numbers (p : Payload) : String :=
  if p.content.isEmpty then ""
  else "(" ++ (Rendering.listForm ((p.content.map UInt8.toNat).map Text.decimal) ++ ")")

def blank (p : Payload) : String := if p.content.isEmpty then "" else " "

theorem errorText_eq (p : Payload) : p.errorText =
    "go away from " ++ (p.side.text ++ ": " ++ (p.reason.description ++ p.blank ++ p.numbers)) := by
  have decimals : p.content.map (fun b => Text.integer b.toNat) =
      (p.content.map UInt8.toNat).map Text.decimal := by
    simp only [List.map_map, Function.comp_def, Text.integer_ofNat]
  have bracket : (" (" : String) = " " ++ "(" := rfl
  rw [errorText, blank, numbers, decimals, bracket]
  split <;> simp only [String.append_assoc, String.append_empty]

theorem numbers_injective {p p' : Payload} (same : p.numbers = p'.numbers) :
    p.content = p'.content := by
  have bracket : ∀ text : String, "" ≠ "(" ++ text := fun text h => by
    have := congrArg String.toList h
    rw [String.toList_append] at this
    cases this
  rw [numbers, numbers] at same
  cases empty : p.content with
  | nil =>
    cases empty' : p'.content with
    | nil => rfl
    | cons b rest =>
      rw [empty, empty'] at same
      exact absurd same (bracket _)
  | cons b rest =>
    cases empty' : p'.content with
    | nil =>
      rw [empty, empty'] at same
      exact absurd same.symm (bracket _)
    | cons b' rest' =>
      rw [empty, empty'] at same
      have lists := (String.append_left_inj ")").mp ((String.append_right_inj "(").mp same)
      exact List.map_injective_iff.mpr (fun _ _ => UInt8.toNat_inj.mp)
        (Text.listForm_decimal_injective lists)

theorem description_numbers_injective {p p' : Payload}
    (same : p.reason.description ++ p.blank ++ p.numbers =
      p'.reason.description ++ p'.blank ++ p'.numbers) :
    p.reason = p'.reason ∧ p.content = p'.content := by
  have inside : ∀ p : Payload, ∀ c ∈ (p.reason.description ++ p.blank).toList,
      (c != '(') = true := by
    intro p c h
    rw [String.toList_append, List.mem_append] at h
    rw [bne_iff_ne]
    rcases h with h | h
    · exact Reason.ne_bracket_of_mem_description h
    · rw [blank] at h
      split at h
      · cases h
      · cases List.mem_singleton.mp h
        decide
  have ends : ∀ p : Payload, Text.Ends (· != '(') p.numbers.toList := by
    intro p c h
    rw [numbers] at h
    split at h
    · cases h
    · rw [String.toList_append] at h
      cases h
      rfl
  have split : (p.reason.description ++ p.blank).toList ++ p.numbers.toList =
      (p'.reason.description ++ p'.blank).toList ++ p'.numbers.toList := by
    rw [← String.toList_append, ← String.toList_append, same]
  obtain ⟨before, after⟩ := Text.piece_inj (inside p) (inside p') (ends p) (ends p') split
  have content := numbers_injective (String.toList_inj.mp after)
  have blanks : p.blank = p'.blank := by rw [blank, blank, content]
  rw [String.toList_inj, blanks, String.append_left_inj] at before
  exact ⟨Reason.description_injective before, content⟩

end Payload

namespace Telling

def opening : Telling → String
  | .reset .. => "stream reset by "
  | .goAway _ => "go away from "
  | .reason _ => "protocol error: "
  | .misuse _ => "user error: "

def rest : Telling → String
  | .reset code side => side.text ++ ": " ++ code.description
  | .goAway p => p.side.text ++ ": " ++ (p.reason.description ++ p.blank ++ p.numbers)
  | .reason code => code.description
  | .misuse m => m.text

def text (a : Telling) : String := a.opening ++ a.rest

/-- Each variant begins with a letter of its own. -/
def initial : Telling → Char
  | .reset .. => 's'
  | .goAway _ => 'g'
  | .reason _ => 'p'
  | .misuse _ => 'u'

theorem head?_text (a : Telling) : a.text.toList.head? = some a.initial := by
  cases a <;> simp [text, opening, initial]

theorem text_injective {a b : Telling} (same : a.text = b.text) : a = b := by
  have letter : a.initial = b.initial := by
    rw [← Option.some_inj, ← head?_text, ← head?_text, same]
  cases a with
  | reset code side =>
    cases b with
    | reset code' side' =>
      obtain ⟨rfl, rest⟩ :=
        Initiator.text_append_injective ((String.append_right_inj _).mp same)
      rw [Reason.description_injective rest]
    | _ => simp [initial] at letter
  | goAway p =>
    cases b with
    | goAway p' =>
      obtain ⟨side, rest⟩ :=
        Initiator.text_append_injective ((String.append_right_inj _).mp same)
      obtain ⟨reason, content⟩ := Payload.description_numbers_injective rest
      cases p
      cases p'
      cases side
      cases reason
      cases content
      rfl
    | _ => simp [initial] at letter
  | reason code =>
    cases b with
    | reason code' => rw [Reason.description_injective ((String.append_right_inj _).mp same)]
    | _ => simp [initial] at letter
  | misuse m =>
    cases b with
    | misuse m' =>
      have member := congrArg Misuse.ofText? ((String.append_right_inj _).mp same)
      rw [rest, rest, Misuse.ofText?_text, Misuse.ofText?_text] at member
      rw [Option.some.inj member]
    | _ => simp [initial] at letter

end Telling

namespace Kind

variable {s : Store} {k k' : Kind} {a b : Telling}

/-- What the text of an error of this kind tells. -/
inductive Tells (s : Store) : Kind → Telling → Prop
  | reset {stream : Value} {code : Ref} {r : Reason} {side : Initiator}
    (found : s.get? code = some (.ofReason r)) (initiator : s.Untouched (.initiator side)) :
    Tells s (.reset stream (.object code) (.initiator side)) (.reset r side)
  | goAway {p : Payload} {code : Ref} (found : s.get? code = some (.ofReason p.reason))
    (initiator : s.Untouched (.initiator p.side)) : Tells s (.ofReport (p.report code)) (.goAway p)
  | reason {code : Ref} {r : Reason} (found : s.get? code = some (.ofReason r)) :
    Tells s (.reason (.object code)) (.reason r)
  | misuse {m : Misuse} (untouched : s.Untouched (.misuse m)) :
    Tells s (.misuse (.misuse m)) (.misuse m)

theorem Declared.tells (declared : k.Declared s) (noFault : k.isTransport = false) :
    ∃ a, k.Tells s a := by
  cases declared with
  | ofFailure typed =>
    cases typed with
    | reset identifier reason initiator => exact ⟨_, .reset reason initiator⟩
    | @goAway code r side data reason initiator =>
      exact ⟨_, .goAway (p := ⟨data, r, side⟩) reason initiator⟩
    | misuse untouched => exact ⟨_, .misuse untouched⟩
    | transport found => cases noFault
  | reason found => exact ⟨_, .reason found⟩

theorem Tells.plain (tells : k.Tells s a) (n : Nat) :
    k.plain s (s.renderUpTo (n + 1) []) = .ok a.text := by
  cases tells with
  | reset found initiator =>
    simp only [Kind.plain, plain_reason (Reason.ofValue_code _) found n [],
      Store.plain_of_untouched rfl initiator n []]
    rfl
  | goAway found initiator =>
    rw [Payload.plain_kind found initiator n, Payload.errorText_eq]
    rfl
  | reason found =>
    simp only [Kind.plain, plain_reason (Reason.ofValue_code _) found n []]
    rfl
  | misuse untouched =>
    simp only [Kind.plain, Store.plain_of_untouched rfl untouched n []]
    rfl

theorem Tells.content (tells : k.Tells s a) {content : List UInt8}
    (data : k.debugData? = some (.bytes content)) : ∃ p : Payload, a = .goAway p ∧
      p.content = content := by
  cases tells with
  | goAway found => exact ⟨_, rfl, Value.bytes.inj (Option.some.inj data)⟩
  | _ => cases data

/-- Kinds tell the same exactly where they are of one variant and their fields are equal, but for
the stream of a reset. -/
theorem Tells.agrees_iff (tells : k.Tells s a) (tells' : k'.Tells s b) :
    k.agreesButStream s k' = true ↔ a = b := by
  have reasons : ∀ {code code' : Ref} {r r' : Reason}, s.get? code = some (.ofReason r) →
      s.get? code' = some (.ofReason r') →
      s.equal (.object code) (.object code') = decide (r = r') :=
    fun found found' => Payload.equalUpTo_reason found found' (Store.depth - 2)
  have sides : ∀ i j : Initiator, s.equal (.initiator i) (.initiator j) = decide (i = j) :=
    s.equalUpTo_initiator (Store.depth - 1)
  have contents : ∀ x y : List UInt8, s.equal (.bytes x) (.bytes y) = decide (x = y) :=
    s.equalUpTo_bytes (Store.depth - 1)
  have misuses : ∀ m m' : Misuse, s.equal (.misuse m) (.misuse m') = decide (m = m') :=
    s.equalUpTo_misuse (Store.depth - 1)
  cases tells with
  | reset found =>
    cases tells' with
    | reset found' => simp [agreesButStream, reasons found found', sides]
    | _ => simp [agreesButStream, ofReport, Payload.report]
  | @goAway p code found =>
    cases tells' with
    | @goAway p' code' found' =>
      cases p
      cases p'
      simp [agreesButStream, ofReport, Payload.report, reasons found found', sides, contents]
    | _ => simp [agreesButStream, ofReport, Payload.report]
  | reason found =>
    cases tells' with
    | reason found' => simp [agreesButStream, reasons found found']
    | _ => simp [agreesButStream, ofReport, Payload.report]
  | misuse =>
    cases tells' with
    | misuse => simp [agreesButStream, misuses]
    | _ => simp [agreesButStream, ofReport, Payload.report]

end Kind

/-- The texts of two errors without a fault are the same exactly where the kinds are of one variant
and agree in all fields but the stream of a reset. The text of a termination determines the bytes of
its debug payload. -/
theorem text_identifies {s : Store} {e e' : Ref} {error error' : Error} {k k' : Kind}
    (found : s.get? e = some (.error error)) (found' : s.get? e' = some (.error error'))
    (holds : s.kind? error.kind = some k) (holds' : s.kind? error'.kind = some k')
    (declared : k.Declared s) (declared' : k'.Declared s)
    (noFault : k.isTransport = false) (noFault' : k'.isTransport = false) :
    ∃ text text', s.plain (.object e) = .ok text ∧ s.plain (.object e') = .ok text' ∧
      (text = text' ↔ k.agreesButStream s k' = true) ∧
      ∀ content content', k.debugData? = some (.bytes content) →
        k'.debugData? = some (.bytes content') → text = text' → content = content' := by
  obtain ⟨a, tells⟩ := declared.tells noFault
  obtain ⟨b, tells'⟩ := declared'.tells noFault'
  have same : a.text = b.text ↔ a = b := ⟨Telling.text_injective, congrArg _⟩
  refine ⟨a.text, b.text, ?_, ?_, same.trans (tells.agrees_iff tells').symm, ?_⟩
  · simp only [Store.plain, Store.render_object found, Object.render, holds]
    exact tells.plain (Store.depth - 2)
  · simp only [Store.plain, Store.render_object found', Object.render, holds']
    exact tells'.plain (Store.depth - 2)
  · intro content content' data data' texts
    obtain ⟨p, rfl, rfl⟩ := tells.content data
    obtain ⟨p', rfl, rfl⟩ := tells'.content data'
    cases same.mp texts
    rfl

/-- Resets of two streams with one code and one initiator have the same text. -/
theorem text_identifies_streams :
    let kind := Kind.reset (.object 16) (.object 8) (.initiator .peer)
    let kind' := Kind.reset (.object 17) (.object 8) (.initiator .peer)
    let streams := (Store.initial.push (.streamId (.int 5))).push (.streamId (.int 7))
    let kinds := (streams.push (.kind kind)).push (.kind kind')
    let s := (kinds.push (.error ⟨{}, .base, 18⟩)).push (.error ⟨{}, .base, 19⟩)
    ∃ text, s.plain (.object 20) = .ok text ∧ s.plain (.object 21) = .ok text := by
  intro kind kind' streams kinds s
  have typed : kind.WellTyped s :=
    .reset (i := ⟨5, by decide⟩) (r := ⟨8, by decide⟩) (by decide) (by decide) (by decide)
  have typed' : kind'.WellTyped s :=
    .reset (i := ⟨7, by decide⟩) (r := ⟨8, by decide⟩) (by decide) (by decide) (by decide)
  have found : s.get? 20 = some (.error ⟨{}, .base, 18⟩) := rfl
  have found' : s.get? 21 = some (.error ⟨{}, .base, 19⟩) := rfl
  obtain ⟨text, text', shown, shown', same, -⟩ :=
    text_identifies found found' rfl rfl (.ofFailure typed) (.ofFailure typed') rfl rfl
  exact ⟨text, shown, same.mpr (by decide) ▸ shown'⟩

end Http2Failure
