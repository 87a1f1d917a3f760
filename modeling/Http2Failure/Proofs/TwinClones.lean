import Http2Failure.Proofs.Cloning
import Http2Failure.Proofs.Twins

/-!
# Clones of data are twins

Data can always be stored, and always be cloned with their parts. Cloning only adds objects: those
that are there stay as they are, and what is added is finished but for the clones that wait for
their parts. Since data do not reach themselves, none of their parts meets such a clone. Of data
nothing is found in store but how their members of enumerations are looked up again.
-/

namespace Http2Failure

theorem Enumeration.ofText?_of_ownAttributes {v : Value} {e : Enumeration}
    (member : v.enumeration? = some e) :
    ∃ text name place,
      v.ownAttributes = Value.ofMember text name place ∧ e.ofText? text = some v := by
  cases v with
  | misuse m =>
    cases member
    exact ⟨_, _, _, rfl, by cases m <;> rfl⟩
  | initiator i =>
    cases member
    exact ⟨_, _, _, rfl, by cases i <;> rfl⟩
  | _ => cases member

def Stored.AsMember (v : Value) (stored : Stored) : Prop :=
  ∃ e text, v.enumeration? = some e ∧ e.ofText? text = some v ∧ stored = .member e (.text text)

namespace Cloning

/-- A place at which no clone waits for its parts, where `opened` are the objects that are being
cloned, with the places of their clones. -/
def Finished (opened : List (Ref × Ref)) (q : Ref) : Prop := ∀ entry ∈ opened, entry.2 ≠ q

def IsError (s : Store) (v : Value) : Prop := ∃ error, s.object? v = some (.error error)

/-- While objects of `s` are cloned, every clone of data that is remembered waits for its parts or
is a twin. No clone of an error is remembered. -/
structure Fits (s : Store) (opened : List (Ref × Ref)) (t : Store) (memory : Memory) : Prop where
  more : s.Extends t
  bounds : ∀ entry ∈ opened, s.size ≤ entry.2 ∧ entry.2 < t.size
  known (v w : Value) (n : Nat) (data : s.IsData n v) (h : memory.clones.lookup v = some w) :
    (∃ r p, (r, p) ∈ opened ∧ v = .object r ∧ w = .object p) ∨ s.Twins t (Finished opened) n v w
  noError (v w : Value) (h : memory.clones.lookup v = some w) : ¬ IsError s v
  stored : ∀ entry ∈ memory.stored, Stored.AsMember entry.1 entry.2
  fresh : s.Fresh

variable {s t u : Store} {opened : List (Ref × Ref)} {memory : Memory} {n : Nat} {v w : Value}
  {r q : Ref} {o : Object} {α β : Type}

theorem not_isError_of_data {parts : List Value} (found : s.get? r = some o)
    (data : o.dataParts? = some parts) : ¬ IsError s (.object r) := by
  rintro ⟨error, found'⟩
  cases found.symm.trans found'
  cases data

theorem not_isError_of_twins {P : Ref → Prop} (twins : s.Twins t P n v w) : ¬ IsError s v := by
  cases n with
  | zero => exact twins.elim
  | succ n =>
    cases twins with
    | immediate h =>
      rintro ⟨error, found⟩
      cases v with
      | object => exact h.elim
      | _ => cases found
    | member h =>
      rintro ⟨error, found⟩
      cases v with
      | object => cases h
      | _ => cases found
    | object found data => exact not_isError_of_data found data

theorem twins_extends (twins : s.Twins t (Finished opened) n v w) (more : t.Extends u) :
    s.Twins u (Finished opened) n v w :=
  twins.imp fun _ _ finished there => ⟨finished, more.get? there⟩

theorem Fits.extends (fits : Fits s opened t memory) (more : t.Extends u) :
    Fits s opened u memory where
  more := fits.more.trans more
  bounds entry he := ⟨(fits.bounds entry he).1, Nat.lt_of_lt_of_le (fits.bounds entry he).2
    more.size_le⟩
  known v w n data h := (fits.known v w n data h).imp_right fun twins => twins_extends twins more
  noError := fits.noError
  stored := fits.stored
  fresh := fits.fresh

theorem Fits.finished (fits : Fits s opened t memory) (bound : q < s.size) : Finished opened q :=
  fun entry he same => absurd (same ▸ (fits.bounds entry he).1) (Nat.not_le_of_lt bound)

theorem Fits.finished_new (fits : Fits s opened t memory) : Finished opened t.size :=
  fun entry he same => absurd (same ▸ (fits.bounds entry he).2) (Nat.lt_irrefl _)

theorem lookup_cons (v u w : Value) (clones : List (Value × Value)) :
    List.lookup u ((v, w) :: clones) = if u = v then some w else clones.lookup u := by
  by_cases same : u = v
  · simp [same]
  · simp [List.lookup_cons, same, beq_false_of_ne same]

theorem Fits.remember (fits : Fits s opened t memory) (noError : ¬ IsError s v)
    (twins : ∀ n, s.IsData n v → s.Twins t (Finished opened) n v w) :
    Fits s opened t { memory with clones := (v, w) :: memory.clones } where
  more := fits.more
  bounds := fits.bounds
  known u w' n data h := by
    rw [lookup_cons] at h
    split at h
    · rename_i same
      cases h
      subst same
      exact .inr (twins n data)
    · exact fits.known u w' n data h
  noError u w' h := by
    rw [lookup_cons] at h
    split at h
    · rename_i same
      exact same ▸ noError
    · exact fits.noError u w' h
  stored := fits.stored
  fresh := fits.fresh

theorem Fits.open (fits : Fits s opened t memory) (noError : ¬ IsError s (.object r))
    (empty : Object) :
    Fits s ((r, t.size) :: opened) (t.push empty)
      { memory with clones := (.object r, .object t.size) :: memory.clones } where
  more := fits.more.trans (Store.extends_push t empty)
  bounds := List.forall_mem_cons.mpr
    ⟨⟨fits.more.size_le, by rw [Store.size_push]; exact Nat.lt_succ_self _⟩, fun entry he =>
      ⟨(fits.bounds entry he).1, Store.lt_size_push (fits.bounds entry he).2 empty⟩⟩
  known v w n data h := by
    rw [lookup_cons] at h
    split at h
    · rename_i same
      cases h
      exact .inl ⟨r, t.size, List.mem_cons_self, same, rfl⟩
    · rcases fits.known v w n data h with ⟨r', p, here, rfl, rfl⟩ | twins
      · exact .inl ⟨r', p, List.mem_cons_of_mem _ here, rfl, rfl⟩
      · refine .inr (twins.imp fun p o finished there => ⟨?_, ?_⟩)
        · exact List.forall_mem_cons.mpr
            ⟨(Nat.ne_of_lt (Store.lt_size_of_get? there)).symm, finished⟩
        · exact (Store.extends_push t empty).get? there
  noError v w h := by
    rw [lookup_cons] at h
    split at h
    · rename_i same
      exact same ▸ noError
    · exact fits.noError v w h
  stored := fits.stored
  fresh := fits.fresh

/-- From `t` on the action ends with something that satisfies `P`, and leaves every object and the
log as they are. -/
def Makes (s : Store) (opened : List (Ref × Ref)) (t : Store) (x : Cloning α)
    (P : Store → α → Prop) : Prop :=
  ∀ memory log, Fits s opened t memory → ∃ a memory' t',
    x memory ⟨t, log⟩ = (.ok (a, memory'), ⟨t', log⟩) ∧ t.Extends t' ∧ Fits s opened t' memory' ∧
      P t' a

namespace Makes

variable {P : Store → α → Prop} {R : Store → β → Prop}

theorem pure {a : α} (h : P t a) : Makes s opened t (Pure.pure a) P :=
  fun memory _ fits => ⟨a, memory, t, rfl, .refl t, fits, h⟩

theorem bind {x : Cloning α} {f : α → Cloning β} (first : Makes s opened t x P)
    (rest : ∀ u a, t.Extends u → P u a → Makes s opened u (f a) R) :
    Makes s opened t (x >>= f) R := by
  intro memory log fits
  obtain ⟨a, memory', t', run, more, fits', ha⟩ := first memory log fits
  obtain ⟨b, memory'', t'', run', more', fits'', hb⟩ := rest t' a more ha memory' log fits'
  refine ⟨b, memory'', t'', ?_, more.trans more', fits'', hb⟩
  rw [state_bind_apply, run]
  exact run'

theorem of_fits {x : Cloning α} (h : ∀ memory, Fits s opened t memory → Makes s opened t x P) :
    Makes s opened t x P :=
  fun memory log fits => h memory fits memory log fits

theorem imp {Q : Store → α → Prop} {x : Cloning α} (made : Makes s opened t x P)
    (h : ∀ u a, P u a → Q u a) : Makes s opened t x Q := by
  intro memory log fits
  obtain ⟨a, memory', t', run, more, fits', ha⟩ := made memory log fits
  exact ⟨a, memory', t', run, more, fits', h t' a ha⟩

theorem mapM {R : Store → α → β → Prop} {f : α → Cloning β} {items : List α}
    (lasting : ∀ {t u a b}, t.Extends u → R t a b → R u a b)
    (h : ∀ a ∈ items, ∀ u, t.Extends u → Makes s opened u (f a) fun t b => R t a b) :
    Makes s opened t (items.mapM f) fun t bs => List.Forall₂ (R t) items bs := by
  induction items generalizing t with
  | nil => exact pure .nil
  | cons a rest ih =>
    rw [List.mapM_cons]
    refine (h a List.mem_cons_self t (.refl t)).bind fun u b more hb => ?_
    have others := fun a ha v more' => h a (List.mem_cons_of_mem _ ha) v (more.trans more')
    exact (ih others).bind fun v bs more' hbs => pure (.cons (lasting more' hb) hbs)

theorem twins {f : Value → Cloning Value} {parts : List Value}
    (h : ∀ v ∈ parts, ∀ u, t.Extends u →
      Makes s opened u (f v) fun u w => s.Twins u (Finished opened) n v w) :
    Makes s opened t (parts.mapM f) fun u ws =>
      List.Forall₂ (s.Twins u (Finished opened) n) parts ws :=
  mapM (fun more twins => twins_extends twins more) h

theorem ask_bind {g : Store → α} {f : α → Cloning β} (h : Makes s opened t (f (g t)) R) :
    Makes s opened t (liftM (Action.ask g) >>= f) R := h

theorem read_bind {g : Store → Except Refusal α} {a : α} {f : α → Cloning β} (given : g t = .ok a)
    (h : Makes s opened t (f a) R) : Makes s opened t (liftM (Action.read g) >>= f) R := by
  intro memory log fits
  obtain ⟨b, memory', t', run, rest⟩ := h memory log fits
  refine ⟨b, memory', t', ?_, rest⟩
  rw [state_bind_apply, state_lift_apply, Action.read_apply, given]
  exact run

theorem get_bind {f : Memory → Cloning β}
    (h : ∀ memory, Fits s opened t memory → Makes s opened t (f memory) R) :
    Makes s opened t (get >>= f) R :=
  fun memory log fits => h memory fits memory log fits

theorem allocate (o : Object) : Makes s opened t (liftM (Action.allocate o) : Cloning Ref)
    fun u q => Finished opened q ∧ u.get? q = some o := by
  intro memory log fits
  have more := Store.extends_push t o
  exact ⟨t.size, memory, t.push o, rfl, more, fits.extends more, fits.finished_new,
    Store.get?_push_size t o⟩

theorem create (o : Object) : Makes s opened t (liftM (Action.create o) : Cloning Value)
    fun u w => ∃ q, w = .object q ∧ Finished opened q ∧ u.get? q = some o :=
  (allocate o).bind fun _ q _ made => pure ⟨q, rfl, made⟩

theorem tuple (shared : s.get? Store.emptyTupleRef = some (.tuple [])) (items : List Value) :
    Makes s opened t (liftM (Action.tuple items) : Cloning Ref)
      fun u q => Finished opened q ∧ u.get? q = some (.tuple items) := by
  cases items with
  | nil =>
    intro memory log fits
    exact ⟨_, memory, t, rfl, .refl t, fits, fits.finished (Store.lt_size_of_get? shared),
      fits.more.get? shared⟩
  | cons first rest => exact allocate (.tuple (first :: rest))

theorem remember (twins : s.Twins t (Finished opened) n v w) :
    Makes s opened t (remember v w) fun u w => s.Twins u (Finished opened) n v w :=
  fun _ _ fits => ⟨w, _, t, rfl, .refl t,
    fits.remember (not_isError_of_twins twins) fun _ data => twins.of_isData data, twins⟩

theorem nextStored? (v : Value) : Makes s opened t (nextStored? v)
    fun _ stored? => ∀ stored, stored? = some stored → Stored.AsMember v stored := by
  intro memory log fits
  refine ⟨_, _, t, nextStored?_apply memory ⟨t, log⟩ v, .refl t,
    ⟨fits.more, fits.bounds, fits.known, fits.noError, ?_, fits.fresh⟩, fun stored listed => ?_⟩
  · exact fun entry he => fits.stored entry (List.mem_of_mem_eraseP he)
  · obtain ⟨before, after, entries, -⟩ := List.lookup_eq_some_iff.mp listed
    exact fits.stored (v, stored) (entries ▸ List.mem_append_right before List.mem_cons_self)

theorem cloneAround {empty : Object} {fill : Ref → Cloning Object} {P : Store → Object → Prop}
    {Q : Store → Value → Prop} (noError : ¬ IsError s (.object r))
    (filled : Makes s ((r, t.size) :: opened) (t.push empty) (fill t.size) P)
    (done : ∀ u o, P u o → Finished opened t.size → s.Untouched (.object t.size) → t.size < u.size →
      Q (u.put t.size o) (.object t.size))
    (twins : ∀ u w n, Q u w → s.IsData n (.object r) →
      s.Twins u (Finished opened) n (.object r) w) :
    Makes s opened t (cloneAround r empty fill) Q := by
  intro memory log fits
  have more := Store.extends_push t empty
  obtain ⟨o, memory', u, run, grown, fits', made⟩ := filled _ log (fits.open noError empty)
  have bound : t.size < u.size := (fits'.bounds _ List.mem_cons_self).2
  have result := done u o made fits.finished_new (fits.fresh _ fits.more.size_le) bound
  have kept : t.Extends (u.put t.size o) := (more.trans grown).put o
  refine ⟨.object t.size, memory', u.put t.size o, cloneAround_apply run, kept, ?_, result⟩
  · refine ⟨fits.more.trans kept, fun entry he => ?_, fun v w n data known => ?_, fits'.noError,
      fits'.stored, fits.fresh⟩
    · exact ⟨(fits.bounds entry he).1, Nat.lt_of_lt_of_le (fits.bounds entry he).2 kept.size_le⟩
    · rcases fits'.known v w n data known with ⟨r', p, here, rfl, rfl⟩ | twin
      · rcases List.mem_cons.mp here with same | here
        · cases same
          exact .inr (twins _ _ n result data)
        · exact .inl ⟨r', p, here, rfl, rfl⟩
      · refine .inr (twin.imp fun q o' finished there => ⟨fun entry he => ?_, ?_⟩)
        · exact finished entry (List.mem_cons_of_mem _ he)
        · exact (Store.get?_put_ne o (finished _ List.mem_cons_self)).trans there

end Makes

theorem mapM_fields (clone : Value → Cloning Value) (fields : List (String × Value)) :
    (fields.mapM fun field => clone field.2) = (fields.map Prod.snd).mapM clone := by
  rw [List.mapM_map]
  rfl

section

variable {parts : List Value} {mode : CloneMode} {clone : Value → Cloning Value}
  (found : s.get? r = some o) (data : o.dataParts? = some parts)

include found data

theorem twins_of_parts {parts' : List Value} (finished : Finished opened q)
    (bare : o.record?.isSome → s.Untouched (.object q)) (there : t.get? q = some (o.refill parts'))
    (rest : List.Forall₂ (s.Twins t (Finished opened) n) parts parts') :
    s.Twins t (Finished opened) (n + 1) (.object r) (.object q) :=
  .object found data finished bare there rest

theorem twins_of_filled {parts' : List Value} (finished : Finished opened q)
    (bare : s.Untouched (.object q)) (bound : q < t.size)
    (rest : List.Forall₂ (s.Twins t (Finished ((r, q) :: opened)) n) parts parts') :
    s.Twins (t.put q (o.refill parts')) (Finished opened) (n + 1) (.object r) (.object q) := by
  refine twins_of_parts found data finished (fun _ => bare) (Store.get?_put_self _ bound)
    (rest.imp ?_)
  intro v w twins
  refine twins.imp fun p o' finished there => ⟨?_, ?_⟩
  · exact fun entry he => finished entry (List.mem_cons_of_mem _ he)
  · exact (Store.get?_put_ne _ (finished _ List.mem_cons_self)).trans there

theorem makes_cloneObject (shared : s.get? Store.emptyTupleRef = some (.tuple []))
    (isData : s.IsData (n + 1) (.object r)) (bare : t.Untouched (.object r))
    (apart : ∀ p, (r, p) ∉ opened)
    (inner : ∀ opened', (opened' = opened ∨ ∃ p, opened' = (r, p) :: opened) → ∀ u, t.Extends u →
      ∀ v ∈ parts, Makes s opened' u (clone v) fun u w => s.Twins u (Finished opened') n v w) :
    Makes s opened t (cloneObject mode clone r o) fun u w =>
      s.Twins u (Finished opened) (n + 1) (.object r) w := by
  have bound : r < s.size := Store.lt_size_of_get? found
  have untouched : s.Untouched (.object r) := by
    cases isData with
    | immediate h => exact h.elim
    | member h => cases h
    | object _ untouched => exact untouched
  have itself : ∀ {u : Store} {memory}, Fits s opened u memory → ∀ parts',
      o.refill parts' = o → List.Forall₂ (s.Twins u (Finished opened) n) parts parts' →
        s.Twins u (Finished opened) (n + 1) (.object r) (.object r) :=
    fun fits _ same rest => twins_of_parts found data (fits.finished bound) (fun _ => untouched)
      ((fits.more.get? found).trans (congrArg some same.symm)) rest
  have created : parts = [] → o.record? = none →
      ∀ {u : Store} {q : Ref}, Finished opened q → u.get? q = some o →
      s.Twins u (Finished opened) (n + 1) (.object r) (.object q) := by
    rintro rfl loose u q finished there
    refine twins_of_parts found data finished (fun frozen => ?_) (there.trans ?_) .nil
    · rw [loose] at frozen
      cases frozen
    · rw [Object.refill_self data]
  have around : ∀ {empty : Object} {fill : Ref → Cloning Object},
      Makes s ((r, t.size) :: opened) (t.push empty) (fill t.size) (fun u o' =>
        ∃ parts', o' = o.refill parts' ∧
          List.Forall₂ (s.Twins u (Finished ((r, t.size) :: opened)) n) parts parts') →
      Makes s opened t (cloneAround r empty fill) fun u w =>
        s.Twins u (Finished opened) (n + 1) (.object r) w := fun filled =>
    Makes.cloneAround (not_isError_of_data found data) filled
      (fun u o' built finished bare bound => by
      obtain ⟨parts', rfl, rest⟩ := built
      exact twins_of_filled found data finished bare bound rest) fun _ _ _ twins data =>
        twins.of_isData data
  have record : ∀ {record : Record}, record.fields.map Prod.snd = parts →
      (∀ parts', o.refill parts' = o.withFields parts') →
      Makes s opened t (cloneRecord clone r o record) fun u w =>
        s.Twins u (Finished opened) (n + 1) (.object r) w := by
    intro record fields refilled
    have nothing : t.given.lookup (.object r) = none := bare
    refine Makes.ask_bind ?_
    rw [nothing, mapM_fields, fields]
    refine around ((Makes.twins fun v hv u grown => ?_).bind fun u ws _ rest =>
      .pure ⟨ws, (refilled ws).symm, rest⟩)
    exact inner _ (.inr ⟨_, rfl⟩) u ((Store.extends_push _ _).trans grown) v hv
  cases o with
  | float word =>
    have none : parts = [] := by
      simp only [Object.dataParts?] at data
      split at data <;> cases data
      rfl
    simp only [cloneObject]
    split
    · refine (Makes.create (.float word)).imp ?_
      rintro u w ⟨q, rfl, finished, there⟩
      exact created none rfl finished there
    · refine Makes.of_fits fun memory fits => .pure (itself fits [] rfl ?_)
      rw [none]
      exact .nil
  | buffer content =>
    cases data
    simp only [cloneObject, Object.record?]
    refine (Makes.create (.buffer content)).bind ?_
    rintro u w - ⟨q, rfl, finished, there⟩
    exact .remember (created rfl rfl finished there)
  | list items =>
    cases data
    simp only [cloneObject]
    refine around ((Makes.twins fun v hv u grown => ?_).bind fun u ws _ rest =>
      .pure ⟨ws, rfl, rest⟩)
    exact inner _ (.inr ⟨_, rfl⟩) u ((Store.extends_push _ _).trans grown) v hv
  | tuple items =>
    cases data
    simp only [cloneObject]
    refine (Makes.twins fun v hv u grown => inner _ (.inl rfl) u grown v hv).bind
      fun u ws _ rest => Makes.get_bind fun memory fits => ?_
    cases known : memory.clones.lookup (.object r) with
    | some w =>
      rcases fits.known _ w _ isData known with ⟨_, p, here, ⟨⟩, -⟩ | twins
      · exact absurd here (apart p)
      · exact .pure twins
    | none =>
      dsimp only
      split
      · rename_i unchanged
        exact .pure (itself fits ws (congrArg Object.tuple unchanged.2) rest)
      · refine (Makes.tuple shared ws).bind ?_
        rintro u q grown ⟨finished, there⟩
        refine .remember ?_
        exact twins_of_parts found rfl finished (fun frozen => by cases frozen) there
          (rest.imp fun _ _ twins => twins_extends twins grown)
  | reason | streamId | report | sendFailure | kind =>
    cases data
    exact record rfl fun _ => rfl
  | _ => cases data

end

theorem bare_of_isData (data : s.IsData n (.object r)) (more : s.Extends t) :
    t.attributesOf (.object r) = [] := by
  cases data with
  | immediate h => exact h.elim
  | member h => cases h
  | @object _ _ o _ found untouched parts =>
    have plain : o.carried? = none := by cases o <;> first | rfl | cases parts
    have bare : s.attributesOf (.object r) = [] := Store.attributesOf_of_bare found plain untouched
    exact (more.attributesOf (v := .object r) (Store.lt_size_of_get? found)).trans bare

theorem byAttributes?_of_isData (data : s.IsData n v) (more : s.Extends t) (mode : CloneMode)
    (clone : Value → Cloning Value) : byAttributes? mode clone t v = none := by
  have bare : t.attributesOf v = [] → byAttributes? mode clone t v = none := by
    intro bare
    cases mode <;> cases itself : t.copiesItself v <;> cases asks : t.asksForParts v <;>
      simp [byAttributes?, bare, itself, asks, Attributes.deepCopyCall?, Attributes.lacksDeepCopy,
        Attributes.lacksParts, Attributes.partsCall?, Attributes.get?]
  cases data with
  | immediate h =>
    cases v with
    | object | misuse | initiator => exact h.elim
    | _ => exact bare rfl
  | member h untouched =>
    have start : t.attributesOf v = v.ownAttributes :=
      Store.attributesOf_of_untouched h (more.untouched (Older.of_isMember h _) untouched)
    cases v with
    | misuse | initiator =>
      cases mode <;>
        simp [byAttributes?, start, Store.copiesItself, Store.object?, Value.isMember,
          Value.enumeration?, Value.ownAttributes, Value.ofMember, Attributes.deepCopyCall?,
          Attributes.lacksDeepCopy, Attributes.get?, List.lookup_cons]
    | _ => cases h
  | object found untouched parts rest =>
    exact bare (bare_of_isData (.object found untouched parts rest) more)

theorem makes_lookUp {e : Enumeration} {text : String} (member : v.enumeration? = some e)
    (found : e.ofText? text = some v) (isData : s.IsData n v)
    (inner : ∀ u, t.Extends u → Makes s opened u (clone (.text text)) fun _ w => w = .text text) :
    Makes s opened t (lookUp .stored clone v e (.text text)) fun u w =>
      s.Twins u (Finished opened) n v w := by
  have itself : ∀ u, s.Twins u (Finished opened) n v v := by
    intro u
    cases isData with
    | immediate h => exact .immediate h
    | member h => exact .member h
    | object => cases member
  refine (inner t (.refl t)).bind fun u w _ same => ?_
  subst same
  have looked : u.memberOf e (.text text) = .ok v := by
    have other : Value.text text ∉ e.members := by cases e <;> simp [Enumeration.members]
    have hashable : u.hashable (.text text) = .ok () := rfl
    simp only [Store.memberOf, Store.memberWith?, if_neg other, hashable, found]
    rfl
  refine Makes.read_bind looked (Makes.get_bind fun memory fits => ?_)
  cases known : memory.clones.lookup v with
  | none => exact .remember (itself u)
  | some w =>
    rcases fits.known v w n isData known with ⟨r, p, -, rfl, -⟩ | twins
    · cases member
    · exact .pure twins

/-- Data are cloned to twins, at every depth that is enough for them. None of the objects that are
being cloned nests as little as what is cloned now, so it cannot be met again: this is what the
induction on the nesting carries. -/
theorem makes_cloneUpTo (mode : CloneMode) (shared : s.get? Store.emptyTupleRef = some (.tuple []))
    {m : Nat} (data : s.IsData n v) (deep : n ≤ m) (more : s.Extends t)
    (apart : ∀ entry ∈ opened, ¬ s.IsData n (.object entry.1)) :
    Makes s opened t (cloneUpTo mode m v) fun u w => s.Twins u (Finished opened) n v w := by
  induction n generalizing m v t opened with
  | zero => cases data
  | succ n ih =>
    obtain ⟨m, rfl⟩ : ∃ k, m = k + 1 := ⟨m - 1, by omega⟩
    have deep' : n ≤ m := Nat.le_of_succ_le_succ deep
    have apart' : ∀ entry ∈ opened, ¬ s.IsData n (.object entry.1) := fun entry he flat =>
      apart entry he flat.succ
    by_cases flat : s.IsData n v
    · exact (ih flat (Nat.le_of_succ_le deep) more apart').imp fun u w twins =>
        twins.of_isData data
    rw [cloneUpTo]
    refine Makes.get_bind fun memory fits => ?_
    cases known : memory.clones.lookup v with
    | some w =>
      rcases fits.known v w _ data known with ⟨r, p, here, rfl, -⟩ | twins
      · exact absurd data (apart _ here)
      · exact .pure twins
    | none =>
      have byClass : ∀ u, s.Extends u → Makes s opened u (cloneByClass mode (cloneUpTo mode m) v)
          fun u w => s.Twins u (Finished opened) (n + 1) v w := by
        intro u more
        have isData := data
        cases data with
        | immediate h =>
          cases v with
          | object | misuse | initiator => exact h.elim
          | _ => exact .pure (.immediate h)
        | member h untouched =>
          have start : u.attributesOf v = v.ownAttributes :=
            Store.attributesOf_of_untouched h (more.untouched (Older.of_isMember h _) untouched)
          cases v with
          | misuse | initiator =>
            refine Makes.ask_bind ?_
            rw [start]
            exact .pure (.member h)
          | _ => cases h
        | @object _ r o parts found untouched data rest =>
          refine Makes.ask_bind ?_
          rw [more.get? found]
          have bare : u.Untouched (.object r) :=
            more.untouched (v := .object r) (Store.lt_size_of_get? found) untouched
          refine makes_cloneObject found data shared isData bare
            (fun p here => apart _ here isData) ?_
          intro opened' which u grown v hv
          refine ih (rest v hv) deep' (more.trans grown) ?_
          rcases which with rfl | ⟨p, rfl⟩
          · exact apart'
          · exact List.forall_mem_cons.mpr ⟨flat, apart'⟩
      cases mode with
      | stored =>
        refine (Makes.nextStored? v).bind fun u stored? grown listed => ?_
        cases stored? with
        | none => exact byClass u (more.trans grown)
        | some stored =>
          obtain ⟨e, text, member, found, rfl⟩ := listed stored rfl
          refine makes_lookUp member found data fun u' grown' => ?_
          have inner : s.IsData n (.text text) := by
            cases data with
            | immediate h =>
              cases v with
              | misuse | initiator => exact h.elim
              | _ => cases member
            | @member n => exact .immediate trivial
            | object => cases member
          exact (ih inner deep' ((more.trans grown).trans grown') apart').imp
            fun u w twins => twins.eq_of_immediate trivial
      | shallow | deep =>
        refine Makes.ask_bind ?_
        rw [byAttributes?_of_isData data more]
        exact byClass t more

theorem cloneUpTo_stored_apply {memory : Memory} {session : Session} {m : Nat}
    (stored : ∀ entry ∈ memory.stored, Stored.AsMember entry.1 entry.2)
    (noMember : v.enumeration? = none) (unknown : memory.clones.lookup v = none) :
    cloneUpTo .stored (m + 1) v memory session =
      cloneByClass .stored (cloneUpTo .stored m) v memory session := by
  have other : ∀ entry ∈ memory.stored, ¬ (entry.1 == v) = true := by
    intro entry he same
    obtain ⟨e, text, member, -⟩ := stored entry he
    rw [eq_of_beq same, noMember] at member
    cases member
  have nothing : memory.stored.lookup v = none :=
    List.lookup_eq_none_iff.mpr fun entry he =>
      bne_iff_ne.mpr fun same => other entry he (beq_iff_eq.mpr same.symm)
  rw [cloneUpTo_apply unknown]
  simp only [cloneValue, state_bind_apply, nextStored?_apply, nothing,
    List.eraseP_of_forall_not other]

theorem mapM_immediate {memory : Memory} (fits : Fits s opened t memory) (m : Nat)
    (log : List LogRecord) {vs : List Value} (immediate : ∀ v ∈ vs, v.Immediate) :
    vs.mapM (cloneUpTo .stored (m + 1)) memory ⟨t, log⟩ = (.ok (vs, memory), ⟨t, log⟩) := by
  have one : ∀ v : Value, v.Immediate →
      cloneUpTo .stored (m + 1) v memory ⟨t, log⟩ = (.ok (v, memory), ⟨t, log⟩) := by
    intro v h
    cases known : memory.clones.lookup v with
    | some w =>
      have same : w = v := by
        rcases fits.known v w 1 (.immediate h) known with ⟨r, p, -, rfl, -⟩ | twins
        · exact h.elim
        · exact twins.eq_of_immediate h
      rw [cloneUpTo]
      simp only [state_bind_apply, state_get_apply, known, same]
      rfl
    | none =>
      have noMember : v.enumeration? = none := by
        cases v with
        | misuse | initiator => exact h.elim
        | _ => rfl
      rw [cloneUpTo_stored_apply fits.stored noMember known]
      cases v with
      | object | misuse | initiator => exact h.elim
      | _ => rfl
  induction vs with
  | nil => rfl
  | cons v rest ih =>
    obtain ⟨here, there⟩ := List.forall_mem_cons.mp immediate
    rw [List.mapM_cons]
    simp only [state_bind_apply, one v here, ih there, state_pure_apply]

end Cloning

namespace Storing

variable {now : Session} {v : Value} {before after : List Value} {n m : Nat}

/-- The look at something is not refused and changes nothing, and what it finds are members of
enumerations that nothing was given to. -/
def Passes {α : Type} (now : Session) (x : Storing α) (result : α) : Prop :=
  ∀ storage : Storage, (∀ entry ∈ storage.stored, Stored.AsMember entry.1 entry.2) →
    ∃ storage' : Storage, x storage now = (.ok (result, storage'), now) ∧
      ∀ entry ∈ storage'.stored, Stored.AsMember entry.1 entry.2

theorem Passes.bind {α β : Type} {x : Storing α} {f : α → Storing β} {a : α} {b : β}
    (first : Passes now x a) (rest : Passes now (f a) b) : Passes now (x >>= f) b := by
  intro storage sound
  obtain ⟨storage', run, sound'⟩ := first storage sound
  obtain ⟨storage'', run', sound''⟩ := rest storage' sound'
  exact ⟨storage'', by rw [state_bind_apply, run]; exact run', sound''⟩

theorem Passes.start {α : Type} {x : Storing α} {a : α} (passes : Passes now x a) :
    ∃ storage : Storage, x {} now = (.ok (a, storage), now) ∧
      ∀ entry ∈ storage.stored, Stored.AsMember entry.1 entry.2 :=
  passes {} fun _ he => absurd he List.not_mem_nil

theorem passes_forM {f : Value → Storing PUnit} {vs : List Value}
    (h : ∀ v ∈ vs, Passes now (f v) ⟨⟩) : Passes now (vs.forM f) ⟨⟩ := by
  induction vs with
  | nil => exact fun storage sound => ⟨storage, rfl, sound⟩
  | cons v rest ih =>
    exact (h v List.mem_cons_self).bind (ih fun w hw => h w (List.mem_cons_of_mem _ hw))

theorem passes_storeUpTo (before after : List Value)
    (parts : Passes now (partsOf v) (before, after))
    (first : ∀ w ∈ before, Passes now (storeUpTo m w) ⟨⟩)
    (last : ∀ w ∈ after, Passes now (storeUpTo m w) ⟨⟩) :
    Passes now (storeUpTo (m + 1) v) ⟨⟩ := by
  have unlessSeen : ∀ {x : Storing PUnit}, Passes now x ⟨⟩ →
      Passes now (do unless (← get).seen.contains v do x) ⟨⟩ := by
    intro x passes storage sound
    simp only [state_bind_apply, state_get_apply]
    by_cases seen : storage.seen.contains v
    · simp only [seen, if_true]
      exact ⟨storage, rfl, sound⟩
    · simp only [seen]
      exact passes storage sound
  refine unlessSeen (parts.bind ((passes_forM first).bind (unlessSeen ?_)))
  refine Passes.bind (a := ⟨⟩) (fun storage sound => ?_) (passes_forM last)
  exact ⟨{ storage with seen := v :: storage.seen }, rfl, sound⟩

theorem ofObject_of_data {s : Store} {o : Object} {parts : List Value}
    (data : o.dataParts? = some parts) (bare : s.attributesOf v = []) :
    ∃ before after, ofObject s v o = .ok (before, after) ∧ before ++ after = parts := by
  cases o with
  | float word =>
    simp only [Object.dataParts?] at data
    split at data <;> cases data
    exact ⟨[], _, rfl, by rw [bare]; rfl⟩
  | tuple =>
    cases data
    exact ⟨parts, [], rfl, List.append_nil parts⟩
  | list =>
    cases data
    exact ⟨[], parts, rfl, rfl⟩
  | buffer | reason | streamId | report | sendFailure | kind =>
    cases data
    exact ⟨[], _, rfl, by simp [bare, Object.record?]⟩
  | _ => cases data

theorem passes_partsOf {r : Ref} {o : Object} {parts : Parts} (found : now.store.get? r = some o)
    (unreplaced : (now.store.attributesOf (.object r)).partsCall? .stored
      (now.store.asksForParts (.object r)) = none)
    (given : ofObject now.store (.object r) o = .ok parts) :
    Passes now (partsOf (.object r)) parts := by
  intro storage sound
  have there : now.store.object? (.object r) = some o := found
  refine ⟨storage, ?_, sound⟩
  simp only [partsOf, state_bind_apply, state_lift_apply, Action.ask_apply, unreplaced,
    Value.enumeration?, there, Action.read_apply, given]

theorem passes_of_isData (data : now.store.IsData n v) (deep : n ≤ m) :
    Passes now (storeUpTo m v) ⟨⟩ := by
  induction data generalizing m with
  | @immediate n v h =>
    obtain ⟨m, rfl⟩ : ∃ k, m = k + 1 := ⟨m - 1, by omega⟩
    refine passes_storeUpTo [] [] ?_ nofun nofun
    cases v with
    | object | misuse | initiator => exact h.elim
    | _ => exact fun storage sound => ⟨storage, rfl, sound⟩
  | @member n v h untouched =>
    obtain ⟨m, rfl⟩ : ∃ k, m = k + 2 := ⟨m - 2, by omega⟩
    obtain ⟨e, member⟩ := Option.isSome_iff_exists.mp h
    obtain ⟨text, name, place, own, found⟩ := Enumeration.ofText?_of_ownAttributes member
    obtain ⟨value, -⟩ := Store.heldByMember_of_untouched own untouched
    refine passes_storeUpTo [.text text] [] (fun storage sound => ?_)
      (fun w hw => ?_) nofun
    · refine ⟨{ storage with stored := storage.stored ++ [(v, .member e (.text text))] }, ?_, ?_⟩
      · have unreplaced : (now.store.attributesOf v).partsCall? .stored
            (now.store.asksForParts v) = none := by
          rw [Store.attributesOf_of_untouched h untouched, own]
          cases now.store.asksForParts v <;> rfl
        simp only [partsOf, state_bind_apply, state_lift_apply, Action.ask_apply, unreplaced,
          member, Action.read_apply, value]
        rfl
      · intro entry he
        rcases List.mem_append.mp he with he | he
        · exact sound entry he
        · cases List.mem_singleton.mp he
          exact ⟨e, text, member, found, rfl⟩
    · cases List.mem_singleton.mp hw
      refine passes_storeUpTo [] [] ?_ nofun nofun
      exact fun storage sound => ⟨storage, rfl, sound⟩
  | @object n r o parts found untouched data rest ih =>
    obtain ⟨m, rfl⟩ : ∃ k, m = k + 1 := ⟨m - 1, by omega⟩
    have bare := Cloning.bare_of_isData (.object found untouched data rest) (.refl now.store)
    obtain ⟨before, after, given, made⟩ := ofObject_of_data data bare
    have inner : ∀ w ∈ parts, Passes now (storeUpTo m w) ⟨⟩ := fun w hw =>
      ih w hw (Nat.le_of_succ_le_succ deep)
    have unreplaced : (now.store.attributesOf (.object r)).partsCall? .stored
        (now.store.asksForParts (.object r)) = none := by
      rw [bare]
      cases now.store.asksForParts (.object r) <;> rfl
    subst made
    exact passes_storeUpTo _ _ (passes_partsOf found unreplaced given)
      (fun w hw => inner w (List.mem_append_left _ hw))
      (fun w hw => inner w (List.mem_append_right _ hw))

end Storing

end Http2Failure
