import Http2Failure.Proofs.Sharing

/-!
# What conversions accept

Each conversion makes an error of the failures that it is made for, and refuses everything else in
a way of its own: the constructor and the conversion of any failure by the type, the conversions of
engine reports and of failures of the sending side as a case that cannot be reached. What is shown
on the way has to have a form, and a debug payload has to be bytes.
-/

namespace Http2Failure

def Store.Shows (s : Store) (form : Form) (v : Value) : Prop := ∃ text, s.render form v = .ok text

/-- The parts of a kind that its text is made of have a form, and its debug payload is bytes. -/
def Kind.Showable (s : Store) : Kind → Prop
  | .reset _ code side => s.Shows .plain side ∧ s.Shows .plain code
  | .goAway data code side =>
    (∃ content, s.bytes? data = some content) ∧ s.Shows .plain side ∧ s.Shows .plain code
  | .reason v | .misuse v | .transport v => s.Shows .plain v

theorem Kind.Showable.plain_ok {s : Store} {k : Kind} (showable : k.Showable s) :
    ∃ text, k.plain s s.render = .ok text := by
  cases k with
  | reset _ code side =>
    obtain ⟨⟨side', hside⟩, code', hcode⟩ := showable
    simp only [Kind.plain, hside, hcode]
    exact ⟨_, rfl⟩
  | goAway data code side =>
    obtain ⟨⟨content, hdata⟩, ⟨side', hside⟩, code', hcode⟩ := showable
    have truthy : s.truthy data = .ok !content.isEmpty := by
      simp only [Store.truthy, hdata]
    have elements : s.elements data = .ok (content.map fun b : UInt8 => .int b.toNat) := by
      simp only [Store.elements, hdata]
    obtain ⟨items, written⟩ : ∃ items, (content.map fun b : UInt8 => Value.int b.toNat).mapM
        (s.render .quoted) = .ok items := by
      refine mapM_ok fun v hv => ?_
      obtain ⟨b, -, rfl⟩ := List.mem_map.mp hv
      exact ⟨_, rfl⟩
    simp only [Kind.plain, hside, hcode, truthy, elements, bind, Except.bind, written]
    cases content.isEmpty <;> exact ⟨_, rfl⟩
  | reason v | misuse v =>
    obtain ⟨text, shown⟩ := showable
    simp only [Kind.plain, shown]
    exact ⟨_, rfl⟩
  | transport v => exact showable

namespace Error

def Refused (category : Refusal.Category) (run : Except Refusal Value × Session) : Prop :=
  ∃ refusal, run.1 = .error refusal ∧ refusal.category = category

/-- A new error of class `cls`, whose only argument is the text that its kind has now. The error
shows the same text, if that does not nest too deep in it. -/
def Built (cls : Class) (base : Store) (run : Except Refusal Value × Session) : Prop :=
  ∃ e error text, run.1 = .ok (.object e) ∧ base.get? e = none ∧
    run.2.store.get? e = some (.error error) ∧ error.cls = cls ∧ error.args = [.text text] ∧
    textOf run.2.store (.object error.kind) = .ok text ∧
    ∀ shown, run.2.store.plain (.object e) = .ok shown → shown = text

/-- An error that is given is returned itself, and anything else that is taken becomes a new one. -/
def Taken (cls : Class) (start : Session) (v : Value)
    (run : Except Refusal Value × Session) : Prop :=
  ((∃ error, start.store.object? v = some (.error error)) ∧ run = (.ok v, start)) ∨
    Built cls start.store run

theorem Built.not_refused {cls : Class} {base : Store} {run : Except Refusal Value × Session}
    (built : Built cls base run) (category : Refusal.Category) : ¬ Refused category run := by
  rintro ⟨refusal, refused, -⟩
  obtain ⟨e, error, text, returned, -⟩ := built
  cases refused.symm.trans returned

theorem Taken.not_refused {cls : Class} {start : Session} {v : Value}
    {run : Except Refusal Value × Session} (taken : Taken cls start v run)
    (category : Refusal.Category) : ¬ Refused category run := by
  rcases taken with ⟨-, rfl⟩ | built
  · rintro ⟨refusal, refused, -⟩
    cases refused
  · exact built.not_refused category

theorem Refused.unique {c c' : Refusal.Category} {run : Except Refusal Value × Session}
    (refused : Refused c run) (refused' : Refused c' run) : c = c' := by
  obtain ⟨r, h, rfl⟩ := refused
  obtain ⟨r', h', rfl⟩ := refused'
  cases h.symm.trans h'
  rfl

variable {s : Store} {log : List LogRecord} {cls : Class} {v : Value}

/-- A refused run, or one that makes an error, according to whether the value is accepted. -/
def Decided (cls : Class) (base : Store) (category : Refusal.Category) (accepted : Prop)
    (run : Except Refusal Value × Session) : Prop :=
  (accepted ∧ Built cls base run) ∨ (¬ accepted ∧ Refused category run)

theorem Decided.refused_iff {base : Store} {category : Refusal.Category} {accepted : Prop}
    {run : Except Refusal Value × Session} (decided : Decided cls base category accepted run) :
    (Refused category run ↔ ¬ accepted) ∧ (accepted → Built cls base run) := by
  rcases decided with ⟨holds, built⟩ | ⟨fails, refused⟩
  · exact ⟨⟨fun h => absurd h (built.not_refused _), fun h => absurd holds h⟩, fun _ => built⟩
  · exact ⟨⟨fun _ => fails, fun _ => refused⟩, fun h => absurd h fails⟩

theorem built_around {base : Store} {κ : Ref} {k : Kind} {text : String}
    (closed : s.Closed) (more : base.Extends s) (holds : s.kind? κ = some k)
    (made : textOf s (.object κ) = .ok text) : Built cls base (around cls κ ⟨s, log⟩) := by
  let error : Error := { cls, kind := κ, args := [.text text] }
  have grown := Store.extends_push s (.error error)
  have found := Store.get?_push_size s (.error error)
  have holds' : (s.push (.error error)).kind? κ = some k := grown.kind? holds
  have after := (textOf_extends closed grown holds).trans made
  have new : base.get? s.size = none := by
    rw [← Option.not_isSome_iff_eq_none, Option.isSome_iff_exists, Store.get?_isSome_iff]
    exact Nat.not_lt_of_le more.size_le
  rw [around_apply, made]
  refine ⟨s.size, error, text, rfl, new, found, rfl, rfl, after, fun shown h => ?_⟩
  have same := (Store.lasts_plain_error found holds').ok_of_ok h
  exact Except.ok.inj (same.symm.trans ((textOf_of_kind holds').symm.trans after))

theorem built_ofKind {k : Kind} (closed : s.Closed)
    (below : ∀ w ∈ (Object.kind k).parts, w.Below s.size) (showable : k.Showable s) :
    Built cls s (ofKind cls k ⟨s, log⟩) := by
  have grown := Store.extends_push s (.kind k)
  obtain ⟨text, shown⟩ := showable.plain_ok
  have holds : (s.push (.kind k)).kind? s.size = some k :=
    Store.kind?_eq_some_iff.mpr (Store.get?_push_size _ _)
  have made : textOf (s.push (.kind k)) (.object s.size) = .ok text := by
    rw [textOf_of_kind holds, ← shown]
    exact Kind.plain_congr grown.toAgreesOn closed.closedOn
      (fun form _ inside => grown.render closed.closedOn form inside) below
  exact built_around (closed.push below) grown holds made

theorem below_of_found (closed : s.Closed) {q : Ref} {o : Object} {k : Kind}
    (found : s.get? q = some o) (parts : (Object.kind k).parts ⊆ .object q :: o.parts) :
    ∀ w ∈ (Object.kind k).parts, w.Below s.size := by
  intro w hw
  rcases List.mem_cons.mp (parts hw) with rfl | held
  · exact Store.lt_size_of_get? found
  · exact closed.parts q o found w held

def IsReport (s : Store) (v : Value) : Prop := ∃ r, s.object? v = some (.report r)

/-- A failure of the sending side that holds misuse, or what the engine reported. -/
def IsSendFailure (s : Store) (v : Value) : Prop :=
  (∃ m, s.object? v = some (.sendFailure (.misuse m))) ∨
    ∃ w, s.object? v = some (.sendFailure (.connection w)) ∧ IsReport s w

def IsSource (s : Store) (v : Value) : Prop :=
  (∃ error, s.object? v = some (.error error)) ∨ IsReport s v ∨
    (∃ code, s.object? v = some (.reason code)) ∨ (∃ f, s.object? v = some (.sendFailure f)) ∨
    (∃ m, v = .misuse m) ∨ ∃ fault, s.object? v = some (.fault fault)

/-- A failed connection in which there is no report of the engine. -/
def IsUnfounded (s : Store) (v : Value) : Prop :=
  ∃ w, s.object? v = some (.sendFailure (.connection w)) ∧ ¬ IsReport s w

/-- What is shown of the kind of a report has a form, and so has any other value, which is refused
with its quoted form. -/
structure ReportShown (s : Store) (v : Value) : Prop where
  report : ∀ r, s.object? v = some (.report r) → (Kind.ofReport r).Showable s
  other : ¬ IsReport s v → s.Shows .quoted v

/-- The misuse or the report in a failure of the sending side has the form that is written to the
log, and its parts have those that the text of the kind is made of. -/
structure SendFailureShown (s : Store) (v : Value) : Prop where
  misuse : ∀ m, s.object? v = some (.sendFailure (.misuse m)) → s.Shows .plain m
  connection : ∀ w, s.object? v = some (.sendFailure (.connection w)) →
    s.Shows .quoted w ∧ ReportShown s w
  other : (∀ f, s.object? v ≠ some (.sendFailure f)) → s.Shows .quoted v

structure SourceShown (s : Store) (v : Value) : Prop where
  report : ∀ r, s.object? v = some (.report r) → (Kind.ofReport r).Showable s
  reason : ∀ code, s.object? v = some (.reason code) → s.Shows .plain v
  sendFailure : ∀ f, s.object? v = some (.sendFailure f) → SendFailureShown s v
  misuse : ∀ m, v = .misuse m → s.Shows .plain v
  fault : ∀ fault, s.object? v = some (.fault fault) → s.Shows .quoted v ∧ s.Shows .plain v

theorem object?_eq_some_iff {o : Object} :
    s.object? v = some o ↔ ∃ q, v = .object q ∧ s.get? q = some o := by
  cases v <;> simp [Store.object?]

theorem ofReport_of_other (other : ¬ IsReport s v) :
    ofReport cls v ⟨s, log⟩ =
      (do throw (.unreachable (← .read fun s => s.quoted v)) : Action Value) ⟨s, log⟩ := by
  simp only [ofReport, Action.bind_apply, Action.ask_apply]
  cases found : s.object? v with
  | none => rfl
  | some o =>
    cases o with
    | report r => exact absurd ⟨r, found⟩ other
    | _ => rfl

theorem ofValue_of_other (other : ¬ ∃ k, s.object? v = some (.kind k)) :
    ofValue cls v ⟨s, log⟩ =
      (.error (.unsupportedKind (s.typeName v)), ⟨s, log⟩) := by
  simp only [ofValue, Action.bind_apply, Action.ask_apply]
  cases found : s.object? v with
  | none => cases v <;> rfl
  | some o =>
    obtain ⟨q, rfl, -⟩ := object?_eq_some_iff.mp found
    cases o with
    | kind k => exact absurd ⟨k, found⟩ other
    | _ => rfl

theorem ofSendFailure_of_other (other : ∀ f, s.object? v ≠ some (.sendFailure f)) :
    ofSendFailure cls v ⟨s, log⟩ =
      (do throw (.unreachable (← .read fun s => s.quoted v)) : Action Value) ⟨s, log⟩ := by
  simp only [ofSendFailure, Action.bind_apply, Action.ask_apply]
  cases found : s.object? v with
  | none => rfl
  | some o =>
    cases o with
    | sendFailure f => exact absurd found (other f)
    | _ => rfl

theorem refused_unreachable (shown : s.Shows .quoted v) :
    Refused .unreachable
      ((do throw (.unreachable (← .read fun s => s.quoted v)) : Action Value) ⟨s, log⟩) := by
  obtain ⟨text, written⟩ := shown
  have form : s.quoted v = .ok text := written
  simp only [Action.bind_apply, Action.read_apply, form, Action.throw_apply]
  exact ⟨_, rfl, rfl⟩

variable (closed : s.Closed)
include closed

theorem decided_ofReport (shown : ReportShown s v) :
    Decided cls s .unreachable (IsReport s v) (ofReport cls v ⟨s, log⟩) := by
  by_cases report : IsReport s v
  · obtain ⟨r, found⟩ := report
    obtain ⟨q, rfl, place⟩ := object?_eq_some_iff.mp found
    have below : ∀ w ∈ (Object.kind (.ofReport r)).parts, w.Below s.size := by
      refine below_of_found closed place ?_
      cases r <;> exact List.subset_cons_self _ _
    rw [ofReport_apply place, finish_ok_nil]
    exact .inl ⟨⟨r, found⟩, built_ofKind closed below (shown.report r found)⟩
  · rw [ofReport_of_other report]
    exact .inr ⟨report, refused_unreachable (shown.other report)⟩

theorem decided_ofValue (shown : ∀ k, s.object? v = some (.kind k) →
    k.Showable s) :
    Decided cls s .wrongType (∃ k, s.object? v = some (.kind k))
      (ofValue cls v ⟨s, log⟩) := by
  by_cases kind : ∃ k, s.object? v = some (.kind k)
  · obtain ⟨k, found⟩ := kind
    obtain ⟨q, rfl, place⟩ := object?_eq_some_iff.mp found
    have holds := Store.kind?_eq_some_iff.mpr place
    obtain ⟨text, made⟩ := (shown k found).plain_ok
    simp only [ofValue, Action.bind_apply, Action.ask_apply, found]
    exact .inl ⟨⟨k, rfl⟩, built_around closed (.refl _) holds ((textOf_of_kind holds).trans made)⟩
  · rw [ofValue_of_other kind]
    exact .inr ⟨kind, _, rfl, rfl⟩

theorem decided_ofSendFailure (shown : SendFailureShown s v) :
    Decided cls s .unreachable (IsSendFailure s v)
      (ofSendFailure cls v ⟨s, log⟩) := by
  by_cases failure : ∃ f, s.object? v = some (.sendFailure f)
  · obtain ⟨f, found⟩ := failure
    obtain ⟨q, rfl, place⟩ := object?_eq_some_iff.mp found
    cases f with
    | misuse m =>
      have below := below_of_found (k := .misuse m) closed place (List.subset_cons_self _ _)
      obtain ⟨text, written⟩ := shown.misuse m found
      have form : s.plain m = .ok text := written
      simp only [ofSendFailure, Action.bind_apply, Action.ask_apply, Action.read_apply, found, form,
        Action.log_apply]
      exact .inl ⟨.inl ⟨m, found⟩, built_ofKind closed below (shown.misuse m found)⟩
    | connection w =>
      obtain ⟨⟨text, written⟩, report⟩ := shown.connection w found
      have form : s.quoted w = .ok text := written
      have same : IsSendFailure s (.object q) ↔ IsReport s w := by
        simp [IsSendFailure, found]
      simp only [ofSendFailure, Action.bind_apply, Action.ask_apply, Action.read_apply, found, form,
        Action.log_apply]
      rw [same]
      exact decided_ofReport closed report
  · have other : ∀ f, s.object? v ≠ some (.sendFailure f) :=
      fun f found => failure ⟨f, found⟩
    rw [ofSendFailure_of_other other]
    refine .inr ⟨?_, refused_unreachable (shown.other other)⟩
    rintro (⟨m, found⟩ | ⟨w, found, -⟩)
    · exact other _ found
    · exact other _ found

theorem built_of_field {q : Ref} {o : Object} {k : Kind} (found : s.get? q = some o)
    (field : (Object.kind k).parts = [.object q]) (showable : k.Showable s) :
    Built cls s (ofKind cls k ⟨s, log⟩) := by
  refine built_ofKind closed (below_of_found closed found ?_) showable
  rw [field]
  exact List.cons_subset_cons _ (List.nil_subset _)

theorem convert_cases (shown : SourceShown s v) :
    (IsSource s v ∧ ¬ IsUnfounded s v ∧ Taken cls ⟨s, log⟩ v (convert cls v ⟨s, log⟩)) ∨
    (IsUnfounded s v ∧ Refused .unreachable (convert cls v ⟨s, log⟩)) ∨
    (¬ IsSource s v ∧ Refused .wrongType (convert cls v ⟨s, log⟩)) := by
  cases found : s.object? v with
  | none =>
    have unfounded : ¬ IsUnfounded s v := by
      rintro ⟨w, found', -⟩
      cases found.symm.trans found'
    cases v with
    | misuse m =>
      have below : ∀ w ∈ (Object.kind (.misuse (.misuse m))).parts, w.Below s.size := by
        intro w hw
        cases List.mem_singleton.mp hw
        trivial
      exact .inl ⟨.inr (.inr (.inr (.inr (.inl ⟨m, rfl⟩)))), unfounded,
        .inr (built_ofKind closed below (shown.misuse m rfl))⟩
    | _ =>
      refine .inr (.inr ⟨by simp [IsSource, IsReport, found], ?_⟩)
      simp only [convert, Action.bind_apply, Action.ask_apply, found, Action.throw_apply]
      exact ⟨_, rfl, rfl⟩
  | some o =>
    obtain ⟨q, rfl, place⟩ := object?_eq_some_iff.mp found
    simp only [convert, Action.bind_apply, Action.ask_apply, found]
    cases o with
    | error error =>
      refine .inl ⟨by simp [IsSource, found], by simp [IsUnfounded, found], ?_⟩
      exact .inl ⟨⟨error, found⟩, rfl⟩
    | report r =>
      have accepted : IsReport s (.object q) := ⟨r, found⟩
      have decided : Decided cls s .unreachable _ (ofReport cls (.object q) ⟨s, log⟩) :=
        decided_ofReport closed ⟨shown.report, absurd accepted⟩
      exact .inl ⟨.inr (.inl accepted), by simp [IsUnfounded, found],
        .inr (decided.refused_iff.2 accepted)⟩
    | reason code =>
      refine .inl ⟨by simp [IsSource, found], by simp [IsUnfounded, found], .inr ?_⟩
      exact built_of_field closed place rfl (shown.reason code found)
    | fault fault =>
      obtain ⟨⟨text, written⟩, plain⟩ := shown.fault fault found
      have form : s.quoted (.object q) = .ok text := written
      refine .inl ⟨by simp [IsSource, found], by simp [IsUnfounded, found], .inr ?_⟩
      simp only [ofTransport, Action.bind_apply, Action.read_apply, form, Action.log_apply]
      exact built_of_field closed place rfl plain
    | sendFailure f =>
      have source : IsSource s (.object q) := by simp [IsSource, found]
      have same : IsSendFailure s (.object q) ↔ ¬ IsUnfounded s (.object q) := by
        cases f <;> simp [IsSendFailure, IsUnfounded, found]
      have decided : Decided cls s .unreachable _ (ofSendFailure cls (.object q) ⟨s, log⟩) :=
        decided_ofSendFailure closed (shown.sendFailure f found)
      rcases decided with ⟨accepted, built⟩ | ⟨other, refused⟩
      · exact .inl ⟨source, same.mp accepted, .inr built⟩
      · exact .inr (.inl ⟨not_not.mp (mt same.mpr other), refused⟩)
    | _ =>
      refine .inr (.inr ⟨by simp [IsSource, IsReport, found], ?_⟩)
      exact ⟨_, rfl, rfl⟩

end Error

open Error in
/-- The constructor takes the five kinds, the conversions of reports and of failures of the sending
side take these, and the conversion of any failure takes all of them, errors, reasons, misuse and
faults. Everything else is refused, in the category of each conversion, and what is taken becomes a
new error with its text as its only argument, but for an error, which is returned as it is. -/
theorem accepted_sources {start : Session} (closed : start.store.Closed) (cls : Error.Class)
    (v : Value) :
    ((∀ k, start.store.object? v = some (.kind k) → k.Showable start.store) →
      (Refused .wrongType (via cls .kind v start) ↔
        ¬ ∃ k, start.store.object? v = some (.kind k)) ∧
      ((∃ k, start.store.object? v = some (.kind k)) →
        Built cls start.store (via cls .kind v start))) ∧
    (ReportShown start.store v →
      (Refused .unreachable (via cls .report v start) ↔ ¬ IsReport start.store v) ∧
      (IsReport start.store v → Built cls start.store (via cls .report v start))) ∧
    (SendFailureShown start.store v →
      (Refused .unreachable (via cls .sendFailure v start) ↔ ¬ IsSendFailure start.store v) ∧
      (IsSendFailure start.store v → Built cls start.store (via cls .sendFailure v start))) ∧
    (SourceShown start.store v →
      (Refused .unreachable (via cls .any v start) ↔ IsUnfounded start.store v) ∧
      (Refused .wrongType (via cls .any v start) ↔ ¬ IsSource start.store v) ∧
      (IsSource start.store v → ¬ IsUnfounded start.store v →
        Taken cls start v (via cls .any v start))) := by
  refine ⟨fun shown => (decided_ofValue closed shown).refused_iff,
    fun shown => (decided_ofReport closed shown).refused_iff,
    fun shown => (decided_ofSendFailure closed shown).refused_iff, fun shown => ?_⟩
  have cases : _ := @convert_cases start.store start.log cls v closed shown
  have source : IsUnfounded start.store v → IsSource start.store v := by
    rintro ⟨w, found, -⟩
    exact .inr (.inr (.inr (.inl ⟨_, found⟩)))
  rcases cases with ⟨known, founded, taken⟩ | ⟨unfounded, refused⟩ | ⟨unknown, refused⟩
  · exact ⟨⟨fun h => absurd h (taken.not_refused _), fun h => absurd h founded⟩,
      ⟨fun h => absurd h (taken.not_refused _), fun h => absurd known h⟩, fun _ _ => taken⟩
  · refine ⟨⟨fun _ => unfounded, fun _ => refused⟩, ⟨fun h => ?_, fun h => ?_⟩,
      fun _ h => absurd unfounded h⟩
    · cases refused.unique h
    · exact absurd (source unfounded) h
  · refine ⟨⟨fun h => ?_, fun h => absurd (source h) unknown⟩, ⟨fun _ => unknown, fun _ => refused⟩,
      fun h => absurd h unknown⟩
    cases refused.unique h

open Error in
/-- Misuse on the sending side is taken, but not inside of a failed connection. -/
theorem accepted_sources_nested :
    let base := (Store.initial.push (.sendFailure (.misuse (.misuse .rejected)))).push
      (.sendFailure (.connection (.object 16)))
    let start : Session := ⟨base, []⟩
    Built .base base (via .base .sendFailure (.object 16) start) ∧
      Refused .unreachable (via .base .sendFailure (.object 17) start) ∧
      Refused .unreachable (via .base .any (.object 17) start) ∧
      Refused .unreachable (via .base .report (.object 17) start) ∧
      Refused .wrongType (via .base .kind (.object 17) start) := by
  intro base start
  have closed : start.store.Closed := by decide
  have held : base.object? (.object 16) = some (.sendFailure (.misuse (.misuse .rejected))) := rfl
  have found : base.object? (.object 17) = some (.sendFailure (.connection (.object 16))) := rfl
  have inner : ¬ IsReport base (.object 16) := by simp [IsReport, held]
  have outer : ¬ IsReport base (.object 17) := by simp [IsReport, found]
  have failure : SendFailureShown base (.object 16) := by
    constructor
    · rintro m h
      cases held.symm.trans h
      exact ⟨_, rfl⟩
    · rintro w h
      cases held.symm.trans h
    · exact fun other => absurd held (other _)
  have nested : SendFailureShown base (.object 17) := by
    constructor
    · rintro m h
      cases found.symm.trans h
    · rintro w h
      cases found.symm.trans h
      exact ⟨⟨_, rfl⟩, fun r h => absurd ⟨r, h⟩ inner, fun _ => ⟨_, rfl⟩⟩
    · exact fun other => absurd found (other _)
  have source : SourceShown base (.object 17) := by
    constructor
    · exact fun r h => absurd ⟨r, h⟩ outer
    · rintro code h
      cases found.symm.trans h
    · exact fun _ _ => nested
    · exact nofun
    · rintro fault h
      cases found.symm.trans h
  have unsent : ¬ IsSendFailure base (.object 17) := by simp [IsSendFailure, found, inner]
  have noKind : ∀ k, base.object? (.object 17) ≠ some (.kind k) := by simp [found]
  obtain ⟨-, -, sent, -⟩ := accepted_sources closed .base (.object 16)
  obtain ⟨kinds, reports, failures, sources⟩ := accepted_sources closed .base (.object 17)
  refine ⟨(sent failure).2 (.inl ⟨_, held⟩), (failures nested).1.mpr unsent,
    (sources source).1.mpr ⟨_, found, inner⟩, (reports ⟨?_, fun _ => ⟨_, rfl⟩⟩).1.mpr outer,
    (kinds ?_).1.mpr ?_⟩
  · exact fun r h => absurd ⟨r, h⟩ outer
  · exact fun k h => absurd h (noKind k)
  · exact fun ⟨k, h⟩ => noKind k h

end Http2Failure
