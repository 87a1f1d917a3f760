import Http2Failure.Proofs.Adorned
import Http2Failure.Proofs.Paths

/-!
# Chains of causes

A fault that is rebuilt becomes the cause of the new one. Wrapping the new one in an error and
rebuilding it again adds one more link in front, as often as that is done, and never closes a
circle: each link is a new object, and all that was there before stays as it is.
-/

namespace Http2Failure

namespace Store

def carried? (s : Store) (r : Ref) : Option Carried := (s.get? r).bind Object.carried?

/-- Following the causes from `r` goes through the exceptions of the list and ends with it. -/
inductive CauseChain (s : Store) : Ref → List Ref → Prop
  | last {r : Ref} {c : Carried} (there : s.carried? r = some c) (none : c.cause = none) :
    CauseChain s r []
  | next {r q : Ref} {c : Carried} {rest : List Ref} (there : s.carried? r = some c)
    (cause : c.cause = some q) (onward : CauseChain s q rest) : CauseChain s r (q :: rest)

variable {s t : Store} {r q : Ref} {chain chain' : List Ref}

theorem carried?_of_get? {o : Object} {c : Carried} (found : s.get? r = some o)
    (carried : o.carried? = some c) : s.carried? r = some c := by
  rw [carried?, found]
  exact carried

theorem CauseChain.unique (h : s.CauseChain r chain) (h' : s.CauseChain r chain') :
    chain = chain' := by
  induction h generalizing chain' with
  | last there none =>
    cases h' with
    | last => rfl
    | next there' cause =>
      cases there.symm.trans there'
      cases none.symm.trans cause
  | next there cause _ ih =>
    cases h' with
    | last there' none =>
      cases there.symm.trans there'
      cases none.symm.trans cause
    | next there' cause' onward =>
      cases there.symm.trans there'
      cases cause.symm.trans cause'
      rw [ih onward]

/-- From every exception on the way a shorter chain goes on. -/
theorem CauseChain.shorter_of_mem (h : s.CauseChain r chain) (hq : q ∈ chain) :
    ∃ rest, s.CauseChain q rest ∧ rest.length < chain.length := by
  induction h with
  | last => cases hq
  | next _ _ onward ih =>
    rcases List.mem_cons.mp hq with rfl | later
    · exact ⟨_, onward, Nat.lt_succ_self _⟩
    · obtain ⟨rest, from_, shorter⟩ := ih later
      exact ⟨rest, from_, Nat.lt_succ_of_lt shorter⟩

theorem CauseChain.nodup (h : s.CauseChain r chain) : (r :: chain).Nodup := by
  induction h with
  | last => exact List.nodup_cons.mpr ⟨List.not_mem_nil, List.nodup_nil⟩
  | @next r q c rest there cause onward ih =>
    refine List.nodup_cons.mpr ⟨fun again => ?_, ih⟩
    have whole : s.CauseChain r (q :: rest) := .next there cause onward
    obtain ⟨rest', from_, shorter⟩ := whole.shorter_of_mem again
    rw [whole.unique from_] at shorter
    exact Nat.lt_irrefl _ shorter

theorem CauseChain.extends (more : s.Extends t) (h : s.CauseChain r chain) :
    t.CauseChain r chain := by
  have kept : ∀ {r : Ref} {c : Carried}, s.carried? r = some c → t.carried? r = some c := by
    intro r c there
    obtain ⟨o, found, carried⟩ := Option.bind_eq_some_iff.mp there
    exact carried?_of_get? (more.get? found) carried
  induction h with
  | last there none => exact .last (kept there) none
  | next there cause _ ih => exact .next (kept there) cause ih

theorem CauseChain.of_append {earlier : List Ref} (h : s.CauseChain r (earlier ++ chain))
    (first : (r :: earlier).getLast? = some q) : s.CauseChain q chain := by
  induction earlier generalizing r with
  | nil =>
    cases first
    exact h
  | cons p rest ih =>
    cases h with
    | next _ _ onward =>
      rw [List.getLast?_cons_cons] at first
      exact ih onward first

end Store

structure Fault.Repeats (fault copy : Fault) : Prop extends fault.SameSlots copy where
  attributes : copy.attributes = fault.attributes

theorem Fault.Faithful.again {fault : Fault} (h : fault.Faithful) (y : Ref) :
    (fault.again y).Faithful :=
  ⟨h.replays, h.fileName, h.fileName2⟩

theorem Fault.Repeats.again {fault copy : Fault} (h : fault.Repeats copy) (y : Ref) :
    fault.Repeats (copy.again y) :=
  ⟨⟨h.cls, h.args, h.errorNumber, h.errorText, h.fileName, h.fileName2, h.charactersWritten⟩,
    h.attributes⟩

namespace Error

/-- Wraps a fault in an error and takes the rebuilt fault out of it. -/
def rewrap (cls : Class) (v : Value) : Action Value := do
  Action.call (← ofTransport cls v) "into_io" []

/-- The fault that comes of doing so many times, and the ones before it, the latest first. -/
def rewrapped (cls : Class) (v : Value) : Nat → Action (Value × List Value)
  | 0 => return (v, [])
  | n + 1 => do
    let (last, earlier) ← rewrapped cls v n
    return (← rewrap cls last, last :: earlier)

variable {now : Session} {f : Ref} {fault : Fault} {cls : Class}

def afterRewrap (cls : Class) (f : Ref) (fault : Fault) (text shown : String) (now : Session) :
    Session where
  store := ((now.store.push (.kind (.transport (.object f)))).push
    (.error { cls, kind := now.store.size, args := [.text text] })).push
      (.fault (Fault.again f fault))
  log := now.log ++ [⟨.debug, .conversion, "Wrapping transport fault: " ++ shown⟩]

theorem rewrap_apply (closed : now.store.Closed) (found : now.store.get? f = some (.fault fault))
    (faithful : fault.Faithful) {text shown : String}
    (plain : now.store.plain (.object f) = .ok text)
    (quoted : now.store.quoted (.object f) = .ok shown) (cls : Class) :
    rewrap cls (.object f) now =
      (.ok (.object (now.store.size + 2)), afterRewrap cls f fault text shown now) := by
  have made : madeText now.store (.transport (.object f)) = .ok text :=
    (madeText_fault closed (.refl _) (Store.lt_size_of_get? found)).trans plain
  have wrapped : ofTransport cls (.object f) now =
      (.ok (.object (now.store.size + 1)),
        ⟨(now.store.push (.kind (.transport (.object f)))).push
          (.error { cls, kind := now.store.size, args := [.text text] }),
          now.log ++ [⟨.debug, .conversion, "Wrapping transport fault: " ++ shown⟩]⟩) := by
    rw [ofTransport_apply, quoted]
    exact (ofKind_apply cls _ _).trans (by rw [made])
  have older := (Store.extends_push now.store (.kind (.transport (.object f)))).trans
    (Store.extends_push _ (.error { cls, kind := now.store.size, args := [.text text] }))
  have holder := Store.get?_push_size (now.store.push (.kind (.transport (.object f))))
    (.error { cls, kind := now.store.size, args := [.text text] })
  have holds := (Store.extends_push _ (.error { cls, kind := now.store.size, args := [.text text] })
    ).get? (Store.get?_push_size now.store (.kind (.transport (.object f))))
  rw [Store.size_push] at holder
  rw [rewrap, Action.bind_apply, wrapped]
  simp only
  refine Eq.trans (call_into_io holder ((hiding?_eq holder "into_io").trans rfl)) ?_
  rw [intoFault_of_transport holder (Store.kind?_eq_some_iff.mpr holds) (older.get? found),
    faithful.rebuild_eq]
  simp only [Store.size_push, afterRewrap]

theorem texts_of_rewrap (closed : now.store.Closed) (found : now.store.get? f = some (.fault fault))
    {w : Value} {after : Session} (run : rewrap cls (.object f) now = (.ok w, after)) :
    (∃ text, now.store.plain (.object f) = .ok text) ∧
      ∃ text, now.store.quoted (.object f) = .ok text := by
  have wrapped : ∃ e mid, ofTransport cls (.object f) now = (.ok e, mid) := by
    rw [rewrap, Action.bind_apply] at run
    cases wrapped : ofTransport cls (.object f) now with
    | mk result mid =>
      cases result with
      | ok e => exact ⟨e, mid, rfl⟩
      | error refusal =>
        rw [wrapped] at run
        cases run
  rw [ofTransport_apply] at wrapped
  obtain ⟨announced, text, made⟩ := finish_ok_iff.mp wrapped
  refine ⟨⟨text, ?_⟩, announced_ok_iff.mp announced⟩
  exact (madeText_fault closed (.refl _) (Store.lt_size_of_get? found)).symm.trans made

/-- What was reached from the fault at `f`, and from the chain that it had before: the latest fault
lies at `y`, and it and the earlier ones repeat the first. -/
structure Repeated (before after : Session) (f : Ref) (fault : Fault) (chain : List Ref) (y : Ref)
    (earlier : List Ref) : Prop where
  more : before.store.Extends after.store
  closed : after.store.Closed
  settled : after.store.Settled y
  first : (y :: earlier).getLast? = some f
  causes : after.store.CauseChain y (earlier ++ chain)
  alike : ∀ r ∈ y :: earlier, ∃ copy, after.store.get? r = some (.fault copy) ∧
    fault.Repeats copy ∧
    ∀ form, after.store.render form (.object r) = before.store.render form (.object f)

variable {before mid after : Session} {chain : List Ref} {y : Ref} {earlier : List Ref}

theorem repeated_zero (closed : now.store.Closed) (settled : now.store.Settled f)
    (found : now.store.get? f = some (.fault fault)) (causes : now.store.CauseChain f chain) :
    Repeated now now f fault chain f [] where
  more := .refl _
  closed := closed
  settled := settled
  first := rfl
  causes := causes
  alike r hr := by
    cases List.mem_singleton.mp hr
    exact ⟨fault, found, ⟨.refl fault, rfl⟩, fun _ => rfl⟩

theorem closed_wrapped {s : Store} (closed : s.Closed) {y : Ref} (bound : y < s.size)
    {text : String} :
    ((s.push (.kind (.transport (.object y)))).push
      (.error { cls, kind := s.size, args := [.text text] })).Closed := by
  refine (closed.push fun v hv => ?_).push fun v hv => ?_
  · cases List.mem_singleton.mp hv
    exact bound
  · simp only [Object.parts, Carried.parts, List.map_nil, Option.toList_none, List.append_nil,
      List.mem_cons, List.not_mem_nil, or_false] at hv
    rcases hv with rfl | rfl
    · exact Store.lt_size_of_get? (Store.get?_push_size s _)
    · trivial

section

variable {s : Store} {copy : Fault} (closed : s.Closed) (settled : s.Settled y)
  (found : s.get? y = some (.fault copy))
include closed settled found

theorem closed_again : (s.push (.fault (copy.again y))).Closed := by
  obtain ⟨copy', found', faithful, -⟩ := settled.fault
  cases found.symm.trans found'
  refine closed.push fun v hv => ?_
  obtain ⟨fresh, given, same⟩ := Fault.rebuild_eq_ok_iff.mp (faithful.rebuild_eq s y)
  rw [same] at hv
  rcases Fault.parts_onto given hv with held | rfl
  · exact closed.parts y _ found v held
  · exact Store.lt_size_of_get? found

theorem settled_again : (s.push (.fault (copy.again y))).Settled s.size := by
  obtain ⟨copy', found', faithful, args, -⟩ := settled.fault
  cases found.symm.trans found'
  refine ⟨⟨copy.again y, Store.get?_push_size _ _, faithful.again y, fun v hv => ?_, nofun⟩, ?_⟩
  · exact (args v hv).mono fun w older => older.mono (Nat.le_of_lt (Store.lt_size_of_get? found))
  · exact (Store.agreesOn_push s _).closedOn closed.closedOn

end

theorem Repeated.step (h : Repeated before mid f fault chain y earlier) {w : Value}
    (run : rewrap cls (.object y) mid = (.ok w, after)) :
    ∃ y', w = .object y' ∧ Repeated before after f fault chain y' (y :: earlier) := by
  obtain ⟨copy, found, repeats, shown⟩ := h.alike y List.mem_cons_self
  obtain ⟨copy', found', faithful, -⟩ := h.settled.fault
  cases found.symm.trans found'
  obtain ⟨⟨text, plain⟩, quotedText, quoted⟩ := texts_of_rewrap h.closed found run
  rw [rewrap_apply h.closed found faithful plain quoted] at run
  cases run
  have bound : y < mid.store.size := Store.lt_size_of_get? found
  -- The store in which the error lies already, but not yet the fault that is taken out of it.
  let wrapped := (mid.store.push (.kind (.transport (.object y)))).push
    (.error { cls, kind := mid.store.size, args := [.text text] })
  have size : mid.store.size + 2 = wrapped.size := by simp only [wrapped, Store.size_push]
  have grown : mid.store.Extends wrapped :=
    (Store.extends_push _ _).trans (Store.extends_push _ _)
  have closed : wrapped.Closed := closed_wrapped h.closed bound
  have settled : wrapped.Settled y :=
    (h.settled.spares (Store.spares_push bound _)).spares
      (Store.spares_push (Store.lt_size_push bound _) _)
  have found' : wrapped.get? y = some (.fault copy) := grown.get? found
  have whole := grown.trans (Store.extends_push wrapped (.fault (copy.again y)))
  have last := Store.get?_push_size wrapped (.fault (copy.again y))
  have kept : ∀ {r : Ref} {form : Form}, r < mid.store.size →
      (wrapped.push (.fault (copy.again y))).render form (.object r) =
        mid.store.render form (.object r) := fun {r form} inside =>
    have inside : (Value.object r).Below mid.store.size := inside
    whole.render h.closed.closedOn form inside
  refine ⟨wrapped.size, congrArg Value.object size, {
    more := h.more.trans whole
    closed := closed_again closed settled found'
    settled := settled_again closed settled found'
    first := List.getLast?_cons_cons.trans h.first
    causes := .next (Store.carried?_of_get? last rfl) rfl (h.causes.extends whole)
    alike := fun r hr => ?_ }⟩
  rcases List.mem_cons.mp hr with rfl | earlier
  · refine ⟨copy.again y, last, repeats.again y, fun form => ?_⟩
    exact (settled.render_again found' form).trans ((kept bound).trans (shown form))
  · obtain ⟨copy', found', repeats', shown'⟩ := h.alike r earlier
    exact ⟨copy', whole.get? found', repeats',
      fun form => (kept (Store.lt_size_of_get? found')).trans (shown' form)⟩

theorem rewrapped_succ_ok {v : Value} {n : Nat} {result : Value × List Value}
    (run : rewrapped cls v (n + 1) now = (.ok result, after)) :
    ∃ last earlier mid w, rewrapped cls v n now = (.ok (last, earlier), mid) ∧
      rewrap cls last mid = (.ok w, after) ∧ result = (w, last :: earlier) := by
  simp only [rewrapped, Action.bind_apply] at run
  cases first : rewrapped cls v n now with
  | mk before mid =>
    rw [first] at run
    cases before with
    | error refusal => cases run
    | ok pair =>
      simp only at run
      cases second : rewrap cls pair.1 mid with
      | mk fresh end_ =>
        rw [second] at run
        cases fresh with
        | error refusal => cases run
        | ok w =>
          cases run
          exact ⟨_, _, _, w, rfl, second, rfl⟩

section

variable (closed : now.store.Closed) (settled : now.store.Settled f)
  (found : now.store.get? f = some (.fault fault)) (causes : now.store.CauseChain f chain)
include closed settled found causes

theorem repeated_of_rewrapped {n : Nat} {result : Value × List Value}
    (run : rewrapped cls (.object f) n now = (.ok result, after)) :
    ∃ y earlier, result = (.object y, earlier.map Value.object) ∧ earlier.length = n ∧
      Repeated now after f fault chain y earlier := by
  induction n generalizing result after with
  | zero =>
    cases run
    exact ⟨f, [], rfl, rfl, repeated_zero closed settled found causes⟩
  | succ n ih =>
    obtain ⟨last, earlier, mid, w, first, second, rfl⟩ := rewrapped_succ_ok run
    obtain ⟨y, earlier', same, length, repeated⟩ := ih first
    cases same
    obtain ⟨y', rfl, repeated'⟩ := repeated.step second
    exact ⟨y', y :: earlier', rfl, congrArg Nat.succ length, repeated'⟩

/-- Only the texts of the first fault stand in the way, since all others are written like it. -/
theorem rewrapped_ok_iff (n : Nat) :
    (∃ result after, rewrapped cls (.object f) n now = (.ok result, after)) ↔
      n = 0 ∨ (∃ text, now.store.plain (.object f) = .ok text) ∧
        ∃ text, now.store.quoted (.object f) = .ok text := by
  constructor
  · rintro ⟨result, after, run⟩
    cases n with
    | zero => exact .inl rfl
    | succ n =>
      obtain ⟨last, earlier, mid, w, first, second, rfl⟩ := rewrapped_succ_ok run
      obtain ⟨y, earlier', same, -, repeated⟩ :=
        repeated_of_rewrapped closed settled found causes first
      cases same
      obtain ⟨copy, there, -, shown⟩ := repeated.alike y List.mem_cons_self
      obtain ⟨⟨text, plain⟩, text', quoted⟩ := texts_of_rewrap repeated.closed there second
      exact .inr ⟨⟨text, (shown .plain).symm.trans plain⟩, text', (shown .quoted).symm.trans quoted⟩
  · rintro (rfl | ⟨⟨text, plain⟩, text', quoted⟩)
    · exact ⟨_, now, rfl⟩
    · induction n with
      | zero => exact ⟨_, now, rfl⟩
      | succ n ih =>
        obtain ⟨result, mid, run⟩ := ih
        obtain ⟨y, earlier, rfl, -, repeated⟩ :=
          repeated_of_rewrapped closed settled found causes run
        obtain ⟨copy, there, -, shown⟩ := repeated.alike y List.mem_cons_self
        obtain ⟨copy', there', faithful, -⟩ := repeated.settled.fault
        cases there.symm.trans there'
        have step := rewrap_apply repeated.closed there faithful ((shown .plain).trans plain)
          ((shown .quoted).trans quoted) cls
        refine ⟨(.object (mid.store.size + 2), .object y :: earlier.map Value.object),
          afterRewrap cls y copy text text' mid, ?_⟩
        simp only [rewrapped, Action.bind_apply, run, step, Action.pure_apply]

end

end Error

/-- A fault of a standard class, built from any arguments and then changed in its attributes, notes,
cause and file names, is wrapped and rebuilt again and again. Where its text and its quoted form can
be made at all, that succeeds any number of times, and makes new objects that repeat the fault and
its text. Each is the cause of the next one, and following the causes from the last one leads
through all the others and then on to those that the fault had before, none of them twice. -/
theorem rebuilt_chain {start built now : Session} {cls : Fault.Class} {args : List Value} {f : Ref}
    (closed : start.store.Closed) (given : ∀ v ∈ args, v.Below start.store.size)
    (standard : cls.isStandard)
    (construction : (Script.Constructor.fault cls).apply args start = (.ok (.object f), built))
    (history : History Change.IsMild f built now) (closed' : now.store.Closed) {chain : List Ref}
    (causes : now.store.CauseChain f chain) (wrapper : Error.Class) (n : Nat) :
    ((∃ result after, Error.rewrapped wrapper (.object f) n now = (.ok result, after)) ↔
      n = 0 ∨ (∃ text, now.store.plain (.object f) = .ok text) ∧
        ∃ text, now.store.quoted (.object f) = .ok text) ∧
    ∀ result after, Error.rewrapped wrapper (.object f) n now = (.ok result, after) →
      ∃ (fault : Fault) (y : Ref) (earlier : List Ref),
        now.store.get? f = some (.fault fault) ∧
        result = (.object y, earlier.map Value.object) ∧ earlier.length = n ∧
        (y :: earlier).getLast? = some f ∧
        (∀ r ∈ y :: earlier, ∃ copy, after.store.get? r = some (.fault copy) ∧
          fault.Repeats copy ∧ after.store.plain (.object r) = now.store.plain (.object f)) ∧
        after.store.CauseChain y (earlier ++ chain) ∧ after.store.CauseChain f chain ∧
        (y :: (earlier ++ chain)).Nodup := by
  have settled : now.store.Settled f :=
    (Store.Settled.of_construction closed given standard construction).history history
  obtain ⟨fault, found, -⟩ := settled.fault
  refine ⟨Error.rewrapped_ok_iff closed' settled found causes n, fun result after run => ?_⟩
  obtain ⟨y, earlier, rfl, length, repeated⟩ :=
    Error.repeated_of_rewrapped closed' settled found causes run
  refine ⟨fault, y, earlier, found, rfl, length, repeated.first, fun r hr => ?_, repeated.causes,
    repeated.causes.of_append repeated.first, repeated.causes.nodup⟩
  obtain ⟨copy, there, repeats, shown⟩ := repeated.alike r hr
  exact ⟨copy, there, repeats, shown .plain⟩

/-- A missing file that was caused by a wrong value, rebuilt twice. -/
theorem rebuilt_chain_fileNotFound :
    let fault : Fault :=
      { cls := .fileNotFound, args := [.int 2, .text "gone"], errorNumber := some (.int 2),
        errorText := some (.text "gone") }
    let start : Session := ⟨Store.initial.push (.exception { cls := .value }), []⟩
    let built : Session := ⟨start.store.push (.fault fault), []⟩
    ∃ (now after : Session) (y z : Ref),
      (Script.Constructor.fault .general).apply [.int 2, .text "gone"] start =
        (.ok (.object 17), built) ∧
      History Change.IsMild 17 built now ∧ now.store.CauseChain 17 [16] ∧
      Error.rewrapped .base (.object 17) 2 now =
        (.ok (.object y, [.object z, .object 17]), after) ∧
      after.store.CauseChain y [z, 17, 16] ∧ [y, z, 17, 16].Nodup := by
  intro fault start built
  let caused : Fault := { fault with cause := some 16, suppressContext := true }
  let now : Session := ⟨start.store.push (.fault caused), []⟩
  have construction : (Script.Constructor.fault .general).apply [.int 2, .text "gone"] start =
      (.ok (.object 17), built) := rfl
  have mild : (Change.set "__cause__" (.object 16)).IsMild := .inr (.inl rfl)
  have change : (Change.set "__cause__" (.object 16)).perform 17 built = (.ok (), now) := rfl
  have history : History Change.IsMild 17 built now := by
    have unchanged : History Change.IsMild 17 built built := .refl built
    have changed := unchanged.change _ mild
    rwa [change] at changed
  have causes : now.store.CauseChain 17 [16] :=
    .next (c := caused.toCarried) rfl rfl (.last (c := {}) rfl rfl)
  have given : ∀ v ∈ [Value.int 2, .text "gone"], v.Below start.store.size := by
    intro v hv
    simp only [List.mem_cons, List.not_mem_nil, or_false] at hv
    rcases hv with rfl | rfl <;> trivial
  have closed : start.store.Closed := by decide
  have closed' : now.store.Closed := by decide
  obtain ⟨returns, chained⟩ :=
    rebuilt_chain closed given rfl construction history closed' causes .base 2
  obtain ⟨result, after, run⟩ := returns.mpr (.inr ⟨⟨_, rfl⟩, _, rfl⟩)
  obtain ⟨-, y, earlier, -, rfl, length, first, -, onward, -, distinct⟩ := chained result after run
  match earlier, length with
  | [z, x], _ =>
    cases first
    exact ⟨now, after, y, z, construction, history, causes, run, onward, distinct⟩

/-- An argument that holds itself has a text, but no quoted form: a fault that is built from it has
a text too, and is never wrapped. -/
theorem rebuilt_chain_refused :
    let alert : Fault :=
      { cls := .tls, args := [.object 16],
        attributes := [("host", .text "h"), ("alert", .text "a")] }
    let start : Session := ⟨Store.initial.push (.fault alert), []⟩
    let built : Session := ⟨start.store.push (.fault { cls := .general, args := [.object 16] }), []⟩
    (Script.Constructor.fault .general).apply [.object 16] start = (.ok (.object 17), built) ∧
      built.store.CauseChain 17 [] ∧
      built.store.plain (.object 17) = .ok "TLS alert from h: a" ∧
      Error.rewrapped .base (.object 17) 1 built = (.error .endlessQuotedForm, built) := by
  intro alert start built
  have found : built.store.get? 16 = some (.fault alert) := rfl
  have found' : built.store.get? 17 = some (.fault { cls := .general, args := [.object 16] }) := rfl
  have endless : ∀ n p, built.store.renderUpTo n p .quoted (.object 16) =
      .error .endlessQuotedForm := by
    intro n
    induction n with
    | zero => exact fun p => rfl
    | succ n ih =>
      intro p
      simp only [Store.renderUpTo, found, Object.render, Carried.quoted, alert, ih]
      rfl
  have quoted : built.store.quoted (.object 17) = .error .endlessQuotedForm := by
    rw [Store.quoted, Store.render_object found']
    simp only [Object.render, Carried.quoted, endless]
    rfl
  refine ⟨rfl, .last (c := { args := [.object 16] }) rfl rfl, rfl, ?_⟩
  simp only [Error.rewrapped, Error.rewrap, Action.bind_apply, Action.pure_apply,
    Error.ofTransport_apply, quoted]
  rfl

end Http2Failure
