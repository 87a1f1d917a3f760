import Http2Failure.Proofs.Apart
import Http2Failure.Proofs.Comparison
import Http2Failure.Proofs.Holders
import Http2Failure.Proofs.Untouched

/-!
# Ways to an error

Each way from a failure to an error writes its log record, if it has one, and then makes an error of
the one kind that the failure stands for. Errors of one kind answer all questions alike, whichever
way they were made, and can be told apart only by their identity.
-/

namespace Http2Failure

namespace Error

def announced (opening : String) (shown : Except Refusal String) :
    Except Refusal (List LogRecord) := do
  return [⟨.debug, .conversion, opening ++ (← shown)⟩]

/-- The ways of a failure to an error of kind `k`, with what is written to the log on the way. -/
inductive Path (s : Store) : Route → Value → Except Refusal (List LogRecord) → Kind → Prop
  | report {p : Ref} {r : Report} (found : s.get? p = some (.report r)) :
    Path s .report (.object p) (.ok []) (.ofReport r)
  | misuse (m : Misuse) : Path s .misuse (.misuse m) (.ok []) (.misuse (.misuse m))
  | transport {f : Ref} {fault : Fault} (found : s.get? f = some (.fault fault)) :
    Path s .transport (.object f)
      (announced "Wrapping transport fault: " (s.quoted (.object f))) (.transport (.object f))
  | connection {c p : Ref} {r : Report}
    (found : s.get? c = some (.sendFailure (.connection (.object p))))
    (held : s.get? p = some (.report r)) :
    Path s .sendFailure (.object c)
      (announced "Send failed on connection error: " (s.quoted (.object p))) (.ofReport r)
  | rejection {c : Ref} {m : Misuse}
    (found : s.get? c = some (.sendFailure (.misuse (.misuse m)))) :
    Path s .sendFailure (.object c)
      (announced "Send rejected by local validation: " (s.plain (.misuse m)))
      (.misuse (.misuse m))
  /-- The way that is made for any failure. -/
  | any {route : Route} {v : Value} {a : Except Refusal (List LogRecord)} {k : Kind}
    (path : Path s route v a k) : Path s .any v a k

def finish (cls : Class) (a : Except Refusal (List LogRecord)) (k : Kind) : Action Value :=
  fun session =>
    match a with
    | .ok records => ofKind cls k { session with log := session.log ++ records }
    | .error r => (.error r, session)

variable {session : Session} {cls : Class} {k : Kind}

theorem finish_ok_nil (cls : Class) (k : Kind) (session : Session) :
    finish cls (.ok []) k session = ofKind cls k session := by
  simp only [finish, List.append_nil]

theorem ofReport_apply {p : Ref} {r : Report} (found : session.store.get? p = some (.report r)) :
    ofReport cls (.object p) session = finish cls (.ok []) (.ofReport r) session := by
  simp only [ofReport, Action.bind_apply, Action.ask_apply, Store.object?, found, finish_ok_nil]

theorem ofTransport_apply (v : Value) :
    ofTransport cls v session =
      finish cls (announced "Wrapping transport fault: " (session.store.quoted v)) (.transport v)
        session := by
  simp only [ofTransport, Action.bind_apply, Action.read_apply, announced]
  cases session.store.quoted v <;> rfl

theorem ofSendFailure_apply_connection {c p : Ref} {r : Report}
    (found : session.store.get? c = some (.sendFailure (.connection (.object p))))
    (held : session.store.get? p = some (.report r)) :
    ofSendFailure cls (.object c) session =
      finish cls
        (announced "Send failed on connection error: " (session.store.quoted (.object p)))
        (.ofReport r) session := by
  simp only [ofSendFailure, Action.bind_apply, Action.ask_apply, Action.read_apply, Store.object?,
    found, announced]
  cases session.store.quoted (.object p) with
  | error => rfl
  | ok shown =>
    have rest : ∀ log, ofReport cls (.object p) ⟨session.store, log⟩ =
        finish cls (.ok []) (.ofReport r) ⟨session.store, log⟩ := fun log => ofReport_apply held
    exact (rest _).trans (finish_ok_nil ..)

theorem ofSendFailure_apply_rejection {c : Ref} {m : Misuse}
    (found : session.store.get? c = some (.sendFailure (.misuse (.misuse m)))) :
    ofSendFailure cls (.object c) session =
      finish cls
        (announced "Send rejected by local validation: " (session.store.plain (.misuse m)))
        (.misuse (.misuse m)) session := by
  simp only [ofSendFailure, Action.bind_apply, Action.ask_apply, Action.read_apply, Store.object?,
    found, announced]
  cases session.store.plain (.misuse m) <;> rfl

theorem Path.via_apply {route : Route} {v : Value} {a : Except Refusal (List LogRecord)}
    (path : Path session.store route v a k) (cls : Class) :
    via cls route v session = finish cls a k session := by
  suffices both : via cls route v session = finish cls a k session ∧
      convert cls v session = finish cls a k session from both.1
  induction path with
  | report found =>
    refine ⟨ofReport_apply found, ?_⟩
    simp only [convert, Action.bind_apply, Action.ask_apply, Store.object?, found]
    exact ofReport_apply found
  | misuse m =>
    refine ⟨(finish_ok_nil ..).symm, ?_⟩
    simp only [convert, Action.bind_apply, Action.ask_apply, Store.object?]
    exact (finish_ok_nil ..).symm
  | transport found =>
    refine ⟨ofTransport_apply _, ?_⟩
    simp only [convert, Action.bind_apply, Action.ask_apply, Store.object?, found]
    exact ofTransport_apply _
  | connection found held =>
    refine ⟨ofSendFailure_apply_connection found held, ?_⟩
    simp only [convert, Action.bind_apply, Action.ask_apply, Store.object?, found]
    exact ofSendFailure_apply_connection found held
  | rejection found =>
    refine ⟨ofSendFailure_apply_rejection found, ?_⟩
    simp only [convert, Action.bind_apply, Action.ask_apply, Store.object?, found]
    exact ofSendFailure_apply_rejection found
  | any path ih => exact ⟨ih.2, ih.2⟩

end Error

/-- The second store has all objects of the first one as they are there, and nothing was given to
anything since. -/
structure Store.Extends (s t : Store) : Prop extends AgreesOn (Older s.size) s t where
  given_eq : t.given = s.given

namespace Store

theorem Extends.refl (s : Store) : s.Extends s := ⟨AgreesOn.refl _ s, rfl⟩

theorem AgreesOn.size_le {s t : Store} (agree : AgreesOn (Older s.size) s t) : s.size ≤ t.size := by
  cases last : s.size with
  | zero => exact Nat.zero_le _
  | succ n =>
    have bound : n < s.size := last ▸ Nat.lt_succ_self n
    obtain ⟨o, found⟩ := get?_isSome_iff.mpr bound
    exact lt_size_of_get? ((agree.objects (r := n) bound).trans found)

theorem Extends.size_le {s t : Store} (h : s.Extends t) : s.size ≤ t.size := h.toAgreesOn.size_le

theorem Extends.trans {s t u : Store} (h : s.Extends t) (h' : t.Extends u) : s.Extends u :=
  ⟨h.toAgreesOn.trans (h'.toAgreesOn.mono (Older.mono h.size_le)), h'.given_eq.trans h.given_eq⟩

theorem Extends.get? {s t : Store} (h : s.Extends t) {r : Ref} {o : Object}
    (found : s.get? r = some o) : t.get? r = some o :=
  (h.objects (lt_size_of_get? found)).trans found

theorem Extends.kind? {s t : Store} (h : s.Extends t) {r : Ref} {k : Kind}
    (holds : s.kind? r = some k) : t.kind? r = some k :=
  kind?_eq_some_iff.mpr (h.get? (kind?_eq_some_iff.mp holds))

theorem extends_push (s : Store) (o : Object) : s.Extends (s.push o) := ⟨agreesOn_push s o, rfl⟩

theorem Extends.put {s t : Store} (h : s.Extends t) (o : Object) : s.Extends (t.put s.size o) where
  toAgreesOn := h.toAgreesOn.trans (agreesOn_put t (Nat.lt_irrefl s.size) o)
  given_eq := h.given_eq

theorem Extends.bare {s t : Store} (h : s.Extends t) {v : Value} (bare : s.Untouched v) :
    t.Untouched v := by
  rw [Untouched, h.given_eq]
  exact bare

theorem Extends.fresh {s t : Store} (h : s.Extends t) (fresh : s.Fresh) : t.Fresh := fun r behind =>
  h.bare (fresh r (Nat.le_trans h.size_le behind))

end Store

namespace Error

/-- At `e` lies an error of class `cls` and kind `k`, to which nothing was attached, and whose kind
is an object that is newer than `base`. -/
def Made (base s : Store) (e : Ref) (cls : Class) (k : Kind) : Prop :=
  ∃ error : Error, s.get? e = some (.error error) ∧ error.cls = cls ∧ error.attributes = [] ∧
    base.size ≤ error.kind ∧ s.kind? error.kind = some k

theorem Made.extends {base s t : Store} {e : Ref} {cls : Class} {k : Kind} (h : Made base s e cls k)
    (more : s.Extends t) : Made base t e cls k := by
  obtain ⟨error, found, cls', bare, newer, holds⟩ := h
  exact ⟨error, more.get? found, cls', bare, newer, more.kind? holds⟩

def madeText (s : Store) (k : Kind) : Except Refusal String :=
  k.plain (s.push (.kind k)) (s.push (.kind k)).render

variable {session : Session} {cls : Class} {k : Kind}

theorem ofKind_apply (cls : Class) (k : Kind) (session : Session) :
    ofKind cls k session =
      match madeText session.store k with
      | .ok text =>
        (.ok (.object (session.store.size + 1)),
          { session with
            store := (session.store.push (.kind k)).push
              (.error { cls, kind := session.store.size, args := [.text text] }) })
      | .error r => (.error r, { session with store := session.store.push (.kind k) }) := by
  simp only [ofKind, around, Action.bind_apply, Action.allocate_apply, Action.read_apply, textOf,
    Store.object?, Store.get?_push_size, madeText]
  cases k.plain (session.store.push (.kind k)) (session.store.push (.kind k)).render with
  | error => rfl
  | ok text => simp only [Action.create_apply, Store.size_push]

theorem made_of_finish {a : Except Refusal (List LogRecord)} {v : Value} {after : Session}
    (run : finish cls a k session = (.ok v, after)) :
    ∃ e, v = .object e ∧ Made session.store after.store e cls k ∧
      session.store.Extends after.store := by
  cases a with
  | error => cases run
  | ok records =>
    simp only [finish, ofKind_apply] at run
    cases text : madeText session.store k with
    | error =>
      rw [text] at run
      cases run
    | ok text' =>
      rw [text] at run
      cases run
      have kindFound := Store.get?_push_size session.store (.kind k)
      have errorFound := Store.get?_push_size (session.store.push (.kind k))
        (.error { cls, kind := session.store.size, args := [.text text'] })
      rw [Store.size_push] at errorFound
      refine ⟨_, rfl, ⟨_, errorFound, rfl, rfl, Nat.le_refl _, ?_⟩,
        (Store.extends_push _ _).trans (Store.extends_push _ _)⟩
      exact Store.kind?_eq_some_iff.mpr ((Store.extends_push _ _).get? kindFound)

theorem finish_ok_iff {a : Except Refusal (List LogRecord)} :
    (∃ v after, finish cls a k session = (.ok v, after)) ↔
      (∃ records, a = .ok records) ∧ ∃ text, madeText session.store k = .ok text := by
  cases a with
  | error => simp [finish]
  | ok records =>
    simp only [finish, ofKind_apply]
    cases madeText session.store k <;> simp

section

variable {base s t : Store} {k : Kind}

theorem Path.kind_below (closed : base.Closed) {route : Route} {v : Value}
    {a : Except Refusal (List LogRecord)} (path : Path base route v a k) :
    ∀ w ∈ (Object.kind k).parts, w.Below base.size := by
  have ofReport : ∀ {p : Ref} {r : Report}, base.get? p = some (.report r) →
      ∀ w ∈ (Object.kind (.ofReport r)).parts, w.Below base.size := by
    intro p r found w hw
    refine closed.parts p _ found w ?_
    cases r <;> exact hw
  induction path with
  | report found => exact ofReport found
  | connection found held => exact ofReport held
  | misuse | rejection =>
    intro w hw
    cases List.mem_singleton.mp hw
    trivial
  | transport found =>
    intro w hw
    cases List.mem_singleton.mp hw
    exact Store.lt_size_of_get? found
  | any path ih => exact ih

theorem Path.extends (closed : base.Closed) (more : base.Extends s) {route : Route} {v : Value}
    {a : Except Refusal (List LogRecord)} (path : Path base route v a k) : Path s route v a k := by
  have quoted : ∀ {p : Ref} {o : Object}, base.get? p = some o →
      base.quoted (.object p) = s.quoted (.object p) := by
    intro p o found
    have bound : (Value.object p).Below base.size := Store.lt_size_of_get? found
    exact (more.render closed.closedOn .quoted bound).symm
  induction path with
  | report found => exact .report (more.get? found)
  | misuse m => exact .misuse m
  | transport found =>
    rw [quoted found]
    exact .transport (more.get? found)
  | connection found held =>
    rw [quoted held]
    exact .connection (more.get? found) (more.get? held)
  | @rejection c m found =>
    have same : base.plain (.misuse m) = s.plain (.misuse m) :=
      (more.render closed.closedOn .plain (v := .misuse m) trivial).symm
    rw [same]
    exact .rejection (more.get? found)
  | any path ih => exact .any ih

end

section

variable {base : Store} {now : Session} {e e' : Ref} {cls cls' : Class} {k : Kind}

theorem plain_of_made (h : Made base now.store e cls k) :
    now.store.plain (.object e) = k.plain now.store (now.store.renderHeld []) := by
  obtain ⟨error, found, -, -, -, holds⟩ := h
  rw [Store.plain, Store.render_object found]
  simp only [Object.render, holds, Store.renderHeld]

theorem Made.open (h : Made base now.store e cls k) : Open now.store e k := by
  obtain ⟨error, found, -, bare, -, holds⟩ := h
  refine ⟨error, found, holds, fun name _ => ?_⟩
  rw [bare]
  rfl

/-- The kind of an error is only hinted at inside its own form, and nothing that it holds leads back
to it. -/
theorem quoted_of_made (closed : base.Closed) (more : base.Extends now.store)
    (below : ∀ w ∈ (Object.kind k).parts, w.Below base.size) (h : Made base now.store e cls k)
    (h' : Made base now.store e' cls' k) :
    now.store.quoted (.object e) = now.store.quoted (.object e') := by
  obtain ⟨error, found, -, -, newer, holds⟩ := h
  obtain ⟨error', found', -, -, newer', holds'⟩ := h'
  have older : now.store.ClosedOn (Older base.size) := more.closedOn closed.closedOn
  have form : ∀ {r : Ref}, now.store.kind? r = some k →
      now.store.renderUpTo (Store.depth - 1) [] .quoted (.object r) =
        k.record.quoted (now.store.renderUpTo (Store.depth - 2) [r]) := by
    intro r holds
    have place := Store.kind?_eq_some_iff.mp holds
    change now.store.renderUpTo (Store.depth - 2 + 1) [] .quoted (.object r) = _
    simp only [Store.renderUpTo, place, Object.render, Rendering.enclosed, List.not_mem_nil,
      if_false]
  have alike := (Store.AgreesOn.refl _ now.store).renderUpTo older (Store.depth - 2)
  have pending : Pending.AlikeOn (Older base.size) [error'.kind] [error.kind] :=
    Pending.alikeOn_cons_of_not (P := Older base.size) (Nat.not_lt_of_le newer')
      (Nat.not_lt_of_le newer) []
  have record : k.record.quoted (now.store.renderUpTo (Store.depth - 2) [error.kind]) =
      k.record.quoted (now.store.renderUpTo (Store.depth - 2) [error'.kind]) :=
    Record.quoted_congr fun v hv => alike _ _ .quoted v (below v hv) pending
  rw [Store.quoted, Store.quoted, Store.render_object found, Store.render_object found']
  simp only [Object.render, form holds, form holds', record]

theorem equal_of_kinds {s : Store} {r r' : Ref} (holds : s.kind? r = some k)
    (holds' : s.kind? r' = some k) : s.equal (.object r) (.object r') = true :=
  Store.equal_of_frozen (Store.kind?_eq_some_iff.mp holds) (Store.kind?_eq_some_iff.mp holds') rfl

end

end Error

theorem Reason.ofInt?_code (r : Reason) : ofInt? r.code = some r := by
  have bounds : (0 : Int) ≤ r.code ∧ (r.code : Int) < 0x100000000 := by
    have := r.code_lt
    omega
  rw [ofInt?, dif_pos bounds]
  rfl

theorem Reason.ofValue_int (i : Int) :
    ofValue (.int i) = match ofInt? i with
      | some r => .ok r
      | none => .error (.reasonOutOfRange i) := rfl

theorem Reason.ofValue_code (r : Reason) : ofValue (.int r.code) = .ok r := by
  rw [ofValue_int, ofInt?_code]

theorem mapM_ok {α β ε : Type} {f : α → Except ε β} {l : List α} (h : ∀ a ∈ l, ∃ b, f a = .ok b) :
    ∃ bs, l.mapM f = .ok bs := by
  induction l with
  | nil => exact ⟨[], rfl⟩
  | cons a rest ih =>
    obtain ⟨b, here⟩ := h a List.mem_cons_self
    obtain ⟨bs, there⟩ := ih fun c hc => h c (List.mem_cons_of_mem _ hc)
    exact ⟨b :: bs, by rw [List.mapM_cons, here, there]; rfl⟩

/-- What the engine promises about the fields of its failures: identifiers, reasons and initiators
that were checked when they were built, bytes, and faults. Members of enumerations are as they were
from the start. -/
inductive Kind.WellTyped (s : Store) : Kind → Prop
  | reset {id code : Ref} {i : StreamId} {r : Reason} {side : Initiator}
    (identifier : s.get? id = some (.ofStreamId i)) (reason : s.get? code = some (.ofReason r))
    (initiator : s.Untouched (.initiator side)) :
    WellTyped s (.reset (.object id) (.object code) (.initiator side))
  | goAway {code : Ref} {r : Reason} {side : Initiator} (data : List UInt8)
    (reason : s.get? code = some (.ofReason r)) (initiator : s.Untouched (.initiator side)) :
    WellTyped s (.goAway (.bytes data) (.object code) (.initiator side))
  | misuse {m : Misuse} (untouched : s.Untouched (.misuse m)) : WellTyped s (.misuse (.misuse m))
  | transport {f : Ref} {fault : Fault} (found : s.get? f = some (.fault fault)) :
    WellTyped s (.transport (.object f))

theorem Kind.WellTyped.extends {s t : Store} {k : Kind} (typed : k.WellTyped s)
    (more : s.Extends t) : k.WellTyped t := by
  cases typed with
  | reset identifier reason initiator =>
    exact .reset (more.get? identifier) (more.get? reason) (more.untouched trivial initiator)
  | goAway data reason initiator =>
    exact .goAway data (more.get? reason) (more.untouched trivial initiator)
  | misuse untouched => exact .misuse (more.untouched trivial untouched)
  | transport found => exact .transport (more.get? found)

section

variable {s : Store} {r : Ref}

theorem plain_reason {v : Value} {reason : Reason} (checked : Reason.ofValue v = .ok reason)
    (found : s.get? r = some (.reason v)) (n : Nat) (p : Pending) :
    s.renderUpTo (n + 1) p .plain (.object r) = .ok reason.description := by
  simp only [Store.renderUpTo, found, Object.render, Reason.descriptionOf, checked]

theorem quoted_reason {v : Value} {reason : Reason} (checked : Reason.ofValue v = .ok reason)
    (found : s.get? r = some (.reason v)) (n : Nat) (p : Pending) :
    s.renderUpTo (n + 1) p .quoted (.object r) = .ok ("Reason(" ++ reason.name ++ ")") := by
  simp only [Store.renderUpTo, found, Object.render, Reason.nameOf, checked]
  rfl

theorem quoted_ofStreamId {i : StreamId} (found : s.get? r = some (.ofStreamId i)) (n : Nat)
    (p : Pending) : s.renderUpTo (n + 2) p .quoted (.object r) =
      .ok ("StreamId(" ++ Text.integer i.value ++ ")") := by
  simp only [Store.renderUpTo, found, Object.ofStreamId, Object.render]
  rfl

theorem Kind.WellTyped.plain_ok {k : Kind} (typed : k.WellTyped s)
    (noFault : ∀ f, k ≠ .transport (.object f)) (n : Nat) :
    ∃ text, k.plain s (s.renderUpTo (n + 1) []) = .ok text := by
  cases typed with
  | reset _ reason initiator =>
    simp only [Kind.plain, plain_reason (Reason.ofValue_code _) reason n [],
      Store.plain_of_untouched rfl initiator n []]
    exact ⟨_, rfl⟩
  | goAway data reason initiator =>
    simp only [Kind.plain, plain_reason (Reason.ofValue_code _) reason n [],
      Store.plain_of_untouched rfl initiator n []]
    obtain ⟨items, written⟩ : ∃ items, (data.map fun b : UInt8 => Value.int b.toNat).mapM
        (s.renderUpTo (n + 1) [] .quoted) = .ok items := by
      refine mapM_ok fun v hv => ?_
      obtain ⟨b, -, rfl⟩ := List.mem_map.mp hv
      exact ⟨_, rfl⟩
    have truthy : s.truthy (.bytes data) = .ok !data.isEmpty := rfl
    have elements : s.elements (.bytes data) = .ok (data.map fun b : UInt8 => .int b.toNat) := rfl
    rw [truthy, elements]
    simp only [bind, Except.bind, written]
    cases data.isEmpty <;> exact ⟨_, rfl⟩
  | misuse untouched =>
    simp only [Kind.plain, Store.plain_of_untouched rfl untouched n []]
    exact ⟨_, rfl⟩
  | transport found => exact absurd rfl (noFault _)

theorem Record.quoted_ok {write : Writer} {record : Record}
    (h : ∀ v ∈ record.fields.map Prod.snd, ∃ text, write .quoted v = .ok text) :
    ∃ text, record.quoted write = .ok text := by
  obtain ⟨texts, written⟩ : ∃ texts, (record.fields.mapM fun field => do
      return field.1 ++ "=" ++ (← write .quoted field.2)) = .ok texts := by
    refine mapM_ok fun field hf => ?_
    obtain ⟨text, shown⟩ := h field.2 (List.mem_map_of_mem hf)
    exact ⟨field.1 ++ "=" ++ text, by rw [shown]; rfl⟩
  exact ⟨record.className ++ "(" ++ Rendering.separated texts ++ ")",
    by rw [Record.quoted, written]; rfl⟩

theorem Kind.WellTyped.field_ok {k : Kind} (typed : k.WellTyped s) (n : Nat) (p : Pending)
    (fault : ∀ f, k = .transport (.object f) →
      ∃ text, s.renderUpTo (n + 2) p .quoted (.object f) = .ok text) :
    ∀ v ∈ k.record.fields.map Prod.snd, ∃ text, s.renderUpTo (n + 2) p .quoted v = .ok text := by
  cases typed with
  | reset identifier reason initiator =>
    simp only [Kind.record, List.map_cons, List.map_nil, List.forall_mem_cons,
      quoted_ofStreamId identifier n p, quoted_reason (Reason.ofValue_code _) reason (n + 1) p,
      Store.quoted_of_untouched rfl initiator n p]
    exact ⟨⟨_, rfl⟩, ⟨_, rfl⟩, ⟨_, rfl⟩, List.forall_mem_nil _⟩
  | goAway data reason initiator =>
    simp only [Kind.record, List.map_cons, List.map_nil, List.forall_mem_cons,
      quoted_reason (Reason.ofValue_code _) reason (n + 1) p,
      Store.quoted_of_untouched rfl initiator n p]
    exact ⟨⟨_, rfl⟩, ⟨_, rfl⟩, ⟨_, rfl⟩, List.forall_mem_nil _⟩
  | misuse untouched =>
    intro v hv
    cases List.mem_singleton.mp hv
    exact ⟨_, Store.quoted_of_untouched rfl untouched n p⟩
  | transport found =>
    intro v hv
    cases List.mem_singleton.mp hv
    exact fault _ rfl

theorem Kind.WellTyped.quoted_ok {report : Report} (typed : (Kind.ofReport report).WellTyped s)
    (n : Nat) (p : Pending)
    (fault : ∀ f, Kind.ofReport report = .transport (.object f) →
      ∃ text, s.renderUpTo (n + 2) p .quoted (.object f) = .ok text) :
    ∃ text, report.record.quoted (s.renderUpTo (n + 2) p) = .ok text := by
  have fields : (Kind.ofReport report).record.fields = report.record.fields := by
    cases report <;> rfl
  exact Record.quoted_ok (fields ▸ typed.field_ok n p fault)

end

namespace Error

section

variable {session : Session} {cls : Class} {k : Kind} {route : Route} {v : Value}
  {a : Except Refusal (List LogRecord)}

theorem announced_ok_iff {opening : String} {shown : Except Refusal String} :
    (∃ records, announced opening shown = .ok records) ↔ ∃ text, shown = .ok text := by
  cases shown with
  | error r => simp [announced, bind, Except.bind]
  | ok text => simp [announced, bind, Except.bind, pure, Except.pure]

/-- No log record stands in the way of a failure with well-typed fields, if it has no fault, or one
with a quoted form. -/
theorem Path.announced_ok {s : Store} (path : Path s route v a k) (typed : k.WellTyped s)
    (fault : ∀ f, k = .transport (.object f) →
      ∀ n p, ∃ text, s.renderUpTo (n + 2) p .quoted (.object f) = .ok text) :
    ∃ records, a = .ok records := by
  induction path with
  | report | misuse => exact ⟨[], rfl⟩
  | transport => exact announced_ok_iff.mpr (fault _ rfl (Store.depth - 2) [])
  | @connection c p report found held =>
    rw [announced_ok_iff, Store.quoted, Store.render_object held]
    obtain ⟨text, shown⟩ := typed.quoted_ok 997 [p] fun f same => fault f same 997 [p]
    refine ⟨text, ?_⟩
    simp only [Object.render, Rendering.enclosed, List.not_mem_nil, if_false]
    exact shown
  | rejection =>
    cases typed with
    | misuse untouched =>
      exact announced_ok_iff.mpr ⟨_, Store.plain_of_untouched rfl untouched (Store.depth - 1) []⟩
  | any path ih => exact ih typed fault

theorem madeText_fault {base s : Store} (closed : base.Closed) (more : base.Extends s) {f : Ref}
    (bound : f < base.size) : madeText s (.transport (.object f)) = base.plain (.object f) :=
  have inside : (Value.object f).Below base.size := bound
  (more.trans (Store.extends_push s _)).render closed.closedOn .plain inside

theorem Path.returns_iff {base : Store} (closed : base.Closed) (path : Path base route v a k)
    (typed : k.WellTyped base) (more : base.Extends session.store) (cls : Class) :
    (∃ w after, via cls route v session = (.ok w, after)) ↔
      ∀ f, k = .transport (.object f) →
        (∃ text, base.plain (.object f) = .ok text) ∧ ∃ records, a = .ok records := by
  rw [(path.extends closed more).via_apply, finish_ok_iff]
  constructor
  · rintro ⟨records, text⟩ f rfl
    cases typed with
    | transport found =>
      rw [madeText_fault closed more (Store.lt_size_of_get? found)] at text
      exact ⟨text, records⟩
  · intro both
    by_cases fault : ∃ f, k = .transport (.object f)
    · obtain ⟨f, rfl⟩ := fault
      obtain ⟨text, records⟩ := both f rfl
      cases typed with
      | transport found =>
        rw [madeText_fault closed more (Store.lt_size_of_get? found)]
        exact ⟨records, text⟩
    · have noFault : ∀ f, k ≠ .transport (.object f) := fun f same => fault ⟨f, same⟩
      refine ⟨path.announced_ok typed fun f same => absurd same (noFault f), ?_⟩
      exact (typed.extends (more.trans (Store.extends_push _ (.kind k)))).plain_ok noFault 999

end

end Error

namespace Store.AgreesOn

variable {P : Value → Prop} {s t : Store}

theorem size? (agree : AgreesOn P s t) {v : Value} (inside : v.Inside P) :
    t.size? v = s.size? v := by
  cases v with
  | object r => simp only [Store.size?, Store.typeName, agree.objects inside]
  | _ => rfl

theorem ofArgs (agree : AgreesOn P s t) {cls : Fault.Class} {args : List Value}
    (inside : ∀ v ∈ args, v.Inside P) : Fault.ofArgs t cls args = Fault.ofArgs s cls args := by
  rw [Fault.ofArgs_eq, Fault.ofArgs_eq]
  cases found : Fault.thirdOf args with
  | none => rfl
  | some third =>
    simp only [Fault.countIn?, agree.size? (inside third (Fault.mem_of_thirdOf found))]

end Store.AgreesOn

namespace Error

/-- What an error gives out when it is asked for its fault anew: the rebuilt object, if any. -/
def givenOut (e : Ref) (session : Session) : Except Refusal (Option Object) :=
  match Action.call (.object e) "into_io" [] session with
  | (.ok v, after) => .ok (after.store.object? v)
  | (.error r, _) => .error r

variable {base : Store} {s t : Session} {e e' : Ref} {cls cls' : Class} {k : Kind}

theorem givenOut_fault {f : Ref} {fault : Fault}
    (h : Made base s.store e cls (.transport (.object f)))
    (found : s.store.get? f = some (.fault fault)) :
    givenOut e s = (fault.rebuild s.store f).map (some ∘ Object.fault) := by
  rw [givenOut, intoFault_of_open h.open]
  simp only [Kind.intoFault, Action.bind_apply, Action.ask_apply, Action.read_apply, Store.object?,
    found]
  cases fault.rebuild s.store f with
  | error r => rfl
  | ok rebuilt =>
    simp only [Action.create_apply, Store.get?_push_size]
    rfl

theorem givenOut_eq (closed : base.Closed) (typed : k.WellTyped base)
    (more : base.Extends s.store) (more' : base.Extends t.store)
    (h : Made base s.store e cls k) (h' : Made base t.store e' cls' k) :
    givenOut e s = givenOut e' t := by
  cases typed with
  | reset | goAway | misuse =>
    rw [givenOut, givenOut, intoFault_of_open h.open, intoFault_of_open h'.open]
    rfl
  | @transport f fault found =>
    have args : ∀ v ∈ fault.args, v.Below base.size := fun v hv =>
      closed.parts f _ found v
        (Fault.mem_parts_iff.mpr (.inl (Carried.mem_parts_iff.mpr (.inl hv))))
    have rebuild : fault.rebuild t.store f = fault.rebuild s.store f := by
      rw [Fault.rebuild, Fault.rebuild, more.ofArgs args, more'.ofArgs args]
    rw [givenOut_fault h (more.get? found), givenOut_fault h' (more'.get? found), rebuild]

theorem Made.older {older : Store} {now : Store} (more : base.Extends older)
    (h : Made older now e cls k) : Made base now e cls k := by
  obtain ⟨error, found, cls', bare, newer, holds⟩ := h
  exact ⟨error, found, cls', bare, Nat.le_trans more.size_le newer, holds⟩

/-- Nothing tells two errors apart but their identity. -/
structure Alike (now : Session) (e e' : Ref) : Prop where
  plain : now.store.plain (.object e) = now.store.plain (.object e')
  quoted : now.store.quoted (.object e) = now.store.quoted (.object e')
  inspect : ∀ q, Action.inspect (.object e) q now = Action.inspect (.object e') q now
  classify : Recovery.classify (.object e) now = Recovery.classify (.object e') now
  givenOut : ∀ s t : Session, now.store.Extends s.store → now.store.Extends t.store →
    givenOut e s = givenOut e' t

theorem alike_of_made {now : Session} (closed : base.Closed) (typed : k.WellTyped base)
    (below : ∀ w ∈ (Object.kind k).parts, w.Below base.size) (more : base.Extends now.store)
    (h : Made base now.store e cls k) (h' : Made base now.store e' cls' k) : Alike now e e' where
  plain := (plain_of_made h).trans (plain_of_made h').symm
  quoted := quoted_of_made closed more below h h'
  inspect q := (inspect_of_open h.open q).trans (inspect_of_open h'.open q).symm
  classify := (classify_of_open h.open).trans (classify_of_open h'.open).symm
  givenOut _ _ first second := givenOut_eq closed typed (more.trans first) (more.trans second)
    (h.extends first) (h'.extends second)

end Error

/-- All ways of one failure to an error agree. Wherever in a run they are taken, each of them makes
an error of just the class that it was asked for, with the very fields of the failure in its kind,
and nothing tells the errors apart; it fails to do so only where the text of a fault, or of its log
record, cannot be made. An error itself is never converted. -/
theorem conversions_agree {base : Store} (closed : base.Closed) {k : Kind}
    (typed : k.WellTyped base) {route route' : Error.Route} {v v' : Value}
    {a a' : Except Refusal (List LogRecord)} (path : Error.Path base route v a k)
    (path' : Error.Path base route' v' a' k) (cls : Error.Class) :
    (∀ s : Session, base.Extends s.store →
      ((∃ w after, Error.via cls route v s = (.ok w, after)) ↔
        ∀ f, k = .transport (.object f) →
          (∃ text, base.plain (.object f) = .ok text) ∧ ∃ records, a = .ok records)) ∧
    (∀ (s s' t t' now : Session) (w w' : Value), base.Extends s.store → base.Extends s'.store →
      Error.via cls route v s = (.ok w, t) → Error.via cls route' v' s' = (.ok w', t') →
      t.store.Extends now.store → t'.store.Extends now.store →
      ∃ (e e' : Ref) (error error' : Error), w = .object e ∧ w' = .object e' ∧
        now.store.get? e = some (.error error) ∧ now.store.get? e' = some (.error error') ∧
        error.cls = cls ∧ error'.cls = cls ∧ now.store.kind? error.kind = some k ∧
        now.store.kind? error'.kind = some k ∧
        now.store.equal (.object error.kind) (.object error'.kind) = true ∧
        Error.Alike now e e') ∧
    ∀ (classes : List Error.Class) (s : Session) (e : Ref) (error : Error),
      s.store.get? e = some (.error error) →
      classes.foldlM (fun v cls => Error.convert cls v) (.object e) s = (.ok (.object e), s) := by
  refine ⟨fun s more => path.returns_iff closed typed more cls, ?_, ?_⟩
  · intro s s' t t' now w w' more more' run run' later later'
    rw [(path.extends closed more).via_apply] at run
    rw [(path'.extends closed more').via_apply] at run'
    obtain ⟨e, rfl, made, grown⟩ := Error.made_of_finish run
    obtain ⟨e', rfl, made', -⟩ := Error.made_of_finish run'
    have here := (made.older more).extends later
    have here' := (made'.older more').extends later'
    have alike := Error.alike_of_made closed typed (path.kind_below closed)
      ((more.trans grown).trans later) here here'
    obtain ⟨error, found, cls₁, -, -, holds⟩ := here
    obtain ⟨error', found', cls₂, -, -, holds'⟩ := here'
    exact ⟨e, e', error, error', rfl, rfl, found, found', cls₁, cls₂, holds, holds',
      Error.equal_of_kinds holds holds', alike⟩
  · intro classes s e error found
    induction classes with
    | nil => rfl
    | cons cls' rest ih =>
      have same : Error.convert cls' (.object e) s = (.ok (.object e), s) := by
        simp only [Error.convert, Action.bind_apply, Action.ask_apply, Store.object?, found]
        rfl
      rw [List.foldlM_cons, Action.bind_apply, same]
      exact ih

/-- A cancelled stream, as the engine reports it and as the sending side does. -/
theorem conversions_agree_cancelled :
    let base := ((Store.initial.push (.streamId (.int 5))).push
      (.report (.reset (.object 16) (.object 8) (.initiator .peer)))).push
        (.sendFailure (.connection (.object 17)))
    ∃ (t t' : Session) (e e' : Ref),
      Error.via .application .report (.object 17) ⟨base, []⟩ = (.ok (.object e), t) ∧
      Error.via .application .any (.object 18) t = (.ok (.object e'), t') ∧
      Error.Alike t' e e' := by
  intro base
  have closed : base.Closed := by decide
  have typed : (Kind.reset (.object 16) (.object 8) (.initiator .peer)).WellTyped base :=
    .reset (i := ⟨5, by decide⟩) (r := ⟨8, by decide⟩) (by decide) (by decide) (by decide)
  have held : base.get? 17 =
      some (.report (.reset (.object 16) (.object 8) (.initiator .peer))) := by decide
  have path : Error.Path base .report (.object 17) _ (.reset (.object 16) (.object 8) _) :=
    .report held
  have path' : Error.Path base .any (.object 18) _ (.reset (.object 16) (.object 8) _) :=
    .any (.connection (by decide) held)
  obtain ⟨returns, agree, -⟩ := conversions_agree closed typed path path' .application
  obtain ⟨returns', -, -⟩ := conversions_agree closed typed path' path .application
  have more : base.Extends base := .refl _
  obtain ⟨w, t, run⟩ := (returns ⟨base, []⟩ more).mpr nofun
  have grown : base.Extends t.store := by
    obtain ⟨-, -, -, grown⟩ := Error.made_of_finish ((path.via_apply .application).symm.trans run)
    exact grown
  obtain ⟨w', t', run'⟩ := (returns' t grown).mpr nofun
  have grown' : t.store.Extends t'.store := by
    obtain ⟨-, -, -, grown'⟩ := Error.made_of_finish
      (((path'.extends closed grown).via_apply .application).symm.trans run')
    exact grown'
  obtain ⟨e, e', -, -, rfl, rfl, -, -, -, -, -, -, -, alike⟩ :=
    agree ⟨base, []⟩ t t t' t' w w' more grown run run' grown' (.refl _)
  exact ⟨t, t', e, e', run, run', alike⟩

end Http2Failure
