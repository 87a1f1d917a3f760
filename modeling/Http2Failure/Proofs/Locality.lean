import Http2Failure.Proofs.Agreement

/-!
# Locality of written forms

How a value is written depends on the objects that it leads to and on nothing else in the store.
Two stores that agree on a closed set of places write the values of that set alike, whatever
objects outside of the set are pending.
-/

namespace Http2Failure

/-- Two lists of pending objects with the same places of `P` in them. -/
def Pending.AlikeOn (P : Value → Prop) (p p' : Pending) : Prop :=
  ∀ r, P (.object r) → (r ∈ p' ↔ r ∈ p)

theorem Pending.AlikeOn.cons {P : Value → Prop} {p p' : Pending} (alike : AlikeOn P p p')
    (place : Ref) : AlikeOn P (place :: p) (place :: p') := by
  intro r hr
  simp only [List.mem_cons, alike r hr]

theorem Pending.alikeOn_cons_of_not {P : Value → Prop} {a b : Ref} (ha : ¬ P (.object a))
    (hb : ¬ P (.object b)) (p : Pending) : AlikeOn P (a :: p) (b :: p) := by
  intro r hr
  have apart : ∀ {c : Ref}, ¬ P (.object c) → r ≠ c := fun hc same => hc (same ▸ hr)
  simp only [List.mem_cons, apart ha, apart hb, false_or]

def Renderer.AlikeOn (P : Value → Prop) (render render' : Renderer) : Prop :=
  ∀ p p' form v, v.Inside P → Pending.AlikeOn P p p' → render' p' form v = render p form v

section

open Rendering

variable {P : Value → Prop} {render render' : Renderer} {p p' : Pending}

theorem Rendering.enclosed_congr (pending : p.AlikeOn P p') {place : Ref}
    (inside : P (.object place)) {hint : String} {form form' : Writer → Except Refusal String}
    (h : form' (render' (place :: p')) = form (render (place :: p))) :
    enclosed render' p' place hint form' = enclosed render p place hint form := by
  simp only [enclosed, pending place inside, h]

theorem Record.quoted_congr {write write' : Writer} {r : Record}
    (h : ∀ v ∈ r.fields.map Prod.snd, write' .quoted v = write .quoted v) :
    r.quoted write' = r.quoted write := by
  have fields : (r.fields.mapM fun field => do
      return field.1 ++ "=" ++ (← write' .quoted field.2)) = r.fields.mapM fun field => do
      return field.1 ++ "=" ++ (← write .quoted field.2) :=
    mapM_congr fun field hf => by rw [h field.2 (List.mem_map_of_mem hf)]
  simp only [Record.quoted, fields]

namespace Carried

theorem argsTuple_mem_shown {c : Carried} {place : Ref} (h : c.argsTuple = some place) :
    .object place ∈ c.shown := by
  simp [shown, h]

theorem items_congr {c : Carried} {write write' : Writer}
    (h : ∀ v ∈ c.args, write' .quoted v = write .quoted v) :
    c.args.mapM (write' .quoted) = c.args.mapM (write .quoted) :=
  mapM_congr h

theorem argsForm_congr (alike : render.AlikeOn P render') (pending : p.AlikeOn P p')
    {self : Ref} (inside : P (.object self)) {c : Carried} (held : ∀ v ∈ c.shown, v.Inside P) :
    c.argsForm render' p' self = c.argsForm render p self := by
  have place : P (.object (c.argsTuple.getD self)) := by
    cases h : c.argsTuple with
    | none => exact inside
    | some place => exact held _ (argsTuple_mem_shown h)
  apply enclosed_congr pending place
  rw [items_congr fun v hv => alike _ _ _ v (held v (c.args_subset_shown hv)) (pending.cons _)]

theorem plain_congr (alike : render.AlikeOn P render') (pending : p.AlikeOn P p')
    {self : Ref} (inside : P (.object self)) {c : Carried} (held : ∀ v ∈ c.shown, v.Inside P) :
    c.plain render' p' self = c.plain render p self := by
  unfold Carried.plain
  split
  · rfl
  · rename_i arg h
    exact alike p p' .plain arg (held arg (c.args_subset_shown (h ▸ List.mem_cons_self))) pending
  · exact argsForm_congr alike pending inside held

theorem quoted_congr (alike : render.AlikeOn P render') (pending : p.AlikeOn P p')
    {self : Ref} (inside : P (.object self)) {c : Carried} (held : ∀ v ∈ c.shown, v.Inside P)
    (className : String) :
    c.quoted render' p' self className = c.quoted render p self className := by
  unfold Carried.quoted
  split
  · rfl
  · rename_i arg h
    rw [alike p p' .quoted arg (held arg (c.args_subset_shown (h ▸ List.mem_cons_self))) pending]
  · rw [argsForm_congr alike pending inside held]

end Carried

theorem Attributes.mem_of_get? {attrs : Attributes} {name : String} {v : Value}
    (h : attrs.get? name = some v) : (name, v) ∈ attrs := by
  obtain ⟨before, after, rfl, -⟩ := List.lookup_eq_some_iff.mp h
  exact List.mem_append_right before List.mem_cons_self

theorem Carried.mem_of_attributeNamed {c : Carried} {className name : String} {v : Value}
    (h : c.attributeNamed className name = .ok v) : v ∈ c.attributes.map Prod.snd := by
  unfold Carried.attributeNamed at h
  split at h
  · rename_i found
    cases h
    exact List.mem_map_of_mem (f := Prod.snd) (Attributes.mem_of_get? found)
  · cases h

theorem Value.inside_getD {P : Value → Prop} {slot : Option Value}
    (held : ∀ v ∈ slot.toList, v.Inside P) : (slot.getD .null).Inside P := by
  cases slot with
  | none => trivial
  | some v => exact held v List.mem_cons_self

namespace Fault

theorem carried_subset_shown (f : Fault) : f.toCarried.shown ⊆ f.shown := fun _ hv =>
  List.mem_append_left _ (List.mem_append_left _ hv)

theorem slots_subset_shown (f : Fault) : f.slots ⊆ f.shown := fun _ hv =>
  List.mem_append_left _ (List.mem_append_right _ hv)

theorem heading_congr {write write' : Writer} {f : Fault}
    (h : ∀ slot ∈ [f.errorNumber, f.errorText],
      write' .plain (slot.getD .null) = write .plain (slot.getD .null)) :
    f.heading write' = f.heading write := by
  have number := h f.errorNumber List.mem_cons_self
  have text := h f.errorText (List.mem_cons_of_mem _ List.mem_cons_self)
  simp only [heading, number, text]

theorem plain_congr (alike : render.AlikeOn P render') (pending : p.AlikeOn P p')
    {self : Ref} (inside : P (.object self)) {f : Fault} (held : ∀ v ∈ f.shown, v.Inside P) :
    f.plain render' p' self = f.plain render p self := by
  have write : ∀ form v, v.Inside P → render' p' form v = render p form v := fun form v hv =>
    alike p p' form v hv pending
  have slot : ∀ v ∈ f.slots, v.Inside P := fun v hv => held v (f.slots_subset_shown hv)
  have heading : f.heading (render' p') = f.heading (render p) := by
    refine heading_congr fun slot' hs => write .plain _ (Value.inside_getD fun v hv => ?_)
    refine slot v ?_
    rcases List.mem_cons.mp hs with rfl | hs
    · simp [slots, hv]
    · cases List.mem_singleton.mp hs
      simp [slots, hv]
  unfold Fault.plain
  split
  · rename_i tls
    have named : ∀ {name v}, f.attributeNamed f.cls.name name = .ok v →
        render' p' .plain v = render p .plain v := fun h =>
      write .plain _ (held _ (by simp [shown, tls, Carried.mem_of_attributeNamed h]))
    cases host : f.attributeNamed f.cls.name "host" with
    | error => rfl
    | ok v =>
      cases alert : f.attributeNamed f.cls.name "alert" with
      | error => simp only [bind, Except.bind, named host]
      | ok w => simp only [bind, Except.bind, named host, named alert]
  · split
    · rename_i file file2 hf hf2
      have first : file.Inside P := slot file (by simp [slots, hf])
      have second : file2.Inside P := slot file2 (by simp [slots, hf2])
      simp only [heading, write .quoted file first, write .quoted file2 second]
    · rename_i file hf hf2
      have first : file.Inside P := slot file (by simp [slots, hf])
      simp only [heading, write .quoted file first]
    · split
      · exact heading
      · exact Carried.plain_congr alike pending inside fun v hv =>
          held v (f.carried_subset_shown hv)

end Fault

theorem Store.ClosedOn.elements {s : Store} (closed : s.ClosedOn P) {v : Value}
    (inside : v.Inside P) {items : List Value} (h : s.elements v = .ok items) :
    ∀ w ∈ items, w.Inside P := by
  unfold Store.elements at h
  split at h
  · cases h
    intro w hw
    obtain ⟨b, -, rfl⟩ := List.mem_map.mp hw
    trivial
  · split at h
    · cases h
      intro w hw
      obtain ⟨c, -, rfl⟩ := List.mem_map.mp hw
      trivial
    · rename_i r _
      split at h
      · rename_i found
        cases h
        exact closed.shown r _ inside found
      · rename_i found
        cases h
        exact closed.shown r _ inside found
      · cases h
      · cases h
    · cases h

namespace Kind

theorem plain_congr {s t : Store} (agree : s.AgreesOn P t) (closed : s.ClosedOn P)
    {write write' : Writer} (h : ∀ form v, v.Inside P → write' form v = write form v)
    {k : Kind} (held : ∀ v ∈ k.record.fields.map Prod.snd, v.Inside P) :
    k.plain t write' = k.plain s write := by
  cases k with
  | reset id code side =>
    have hcode : code.Inside P := held code (by simp [record])
    have hside : side.Inside P := held side (by simp [record])
    simp only [plain, h .plain code hcode, h .plain side hside]
  | goAway data code side =>
    have hdata : data.Inside P := held data (by simp [record])
    have hcode : code.Inside P := held code (by simp [record])
    have hside : side.Inside P := held side (by simp [record])
    simp only [plain, h .plain code hcode, h .plain side hside, agree.truthy closed hdata,
      agree.elements closed hdata]
    cases found : s.elements data with
    | error => rfl
    | ok items =>
      have shown : items.mapM (write' .quoted) = items.mapM (write .quoted) :=
        mapM_congr fun v hv => h .quoted v (closed.elements hdata found v hv)
      simp only [bind, Except.bind, shown]
  | reason v | misuse v | transport v =>
    have hv : v.Inside P := held v (by simp [record])
    simp only [plain, h .plain v hv]

end Kind

namespace Object

theorem render_congr {s t : Store} (agree : s.AgreesOn P t) (closed : s.ClosedOn P)
    (alike : render.AlikeOn P render') (pending : p.AlikeOn P p') {self : Ref}
    (inside : P (.object self)) (form : Form) {o : Object} (held : ∀ v ∈ o.shown, v.Inside P) :
    o.render t render' p' self form = o.render s render p self form := by
  have write : ∀ form v, v.Inside P → render' p' form v = render p form v := fun form v hv =>
    alike p p' form v hv pending
  have frozen : ∀ {r : Record}, o.record? = some r →
      enclosed render' p' self "..." (fun write => r.quoted write) =
        enclosed render p self "..." fun write => r.quoted write := fun h =>
    enclosed_congr pending inside <| Record.quoted_congr fun v hv =>
      alike _ _ .quoted v (held v (fields_subset_shown h hv)) (pending.cons self)
  cases o with
  | reason code =>
    have hcode : code.Inside P := held code List.mem_cons_self
    cases form with
    | plain => exact Reason.descriptionOf_congr agree closed hcode (write .plain code hcode)
    | quoted => simp only [Object.render, Reason.nameOf_congr agree hcode]
  | streamId value =>
    have hvalue : value.Inside P := held value List.mem_cons_self
    cases form with
    | plain => exact write .plain value hvalue
    | quoted => simp only [Object.render, write .plain value hvalue]
  | report | sendFailure | kind => exact frozen rfl
  | fault f =>
    cases form with
    | plain => exact Fault.plain_congr alike pending inside held
    | quoted =>
      exact Carried.quoted_congr alike pending inside
        (fun v hv => held v (f.carried_subset_shown hv)) f.cls.name
  | exception e =>
    cases form with
    | plain => exact Carried.plain_congr alike pending inside held
    | quoted => exact Carried.quoted_congr alike pending inside held e.cls.name
  | error e =>
    have hkind : P (.object e.kind) := held (.object e.kind) List.mem_cons_self
    cases form with
    | plain =>
      simp only [Object.render, agree.kind? hkind]
      cases found : s.kind? e.kind with
      | none => rfl
      | some k =>
        have place : s.get? e.kind = some (.kind k) := Store.kind?_eq_some_iff.mp found
        exact Kind.plain_congr agree closed write (closed.shown e.kind _ hkind place)
    | quoted => simp only [Object.render, write .quoted (.object e.kind) hkind]
  | list items | tuple items =>
    have shown : items.mapM (render' (self :: p') .quoted) =
        items.mapM (render (self :: p) .quoted) :=
      mapM_congr fun v hv => alike _ _ .quoted v (held v hv) (pending.cons self)
    simp only [Object.render]
    refine enclosed_congr pending inside ?_
    rw [shown]
  | method owner name =>
    have howner : owner.Inside P := held owner List.mem_cons_self
    simp only [Object.render, agree.methodOwner howner, write .quoted owner howner]
  | _ => rfl

end Object

end

namespace Store

variable {P : Value → Prop} {s t : Store}

theorem AgreesOn.renderMember (agree : AgreesOn P s t) (closed : s.ClosedOn P)
    {write write' : Writer} (alike : ∀ form w, w.Inside P → write' form w = write form w)
    {v : Value} (inside : P v) (member : v.isMember = true) (form : Form) :
    t.renderMember write' v form = s.renderMember write v form := by
  have held := agree.heldByMember (Value.inside_of inside)
  cases form with
  | plain =>
    simp only [Store.renderMember, held]
    refine bind_congr_ok fun w found => ?_
    cases w <;> simp only [agree.typeName (closed.heldByMember inside member found)]
  | quoted =>
    simp only [Store.renderMember, held, agree.typeName (Value.inside_of inside)]
    refine bind_congr_ok fun name foundName => bind_congr_ok fun value foundValue => ?_
    rw [alike .quoted value (closed.heldByMember inside member foundValue),
      alike .plain name (closed.heldByMember inside member foundName)]

theorem AgreesOn.renderUpTo (agree : AgreesOn P s t) (closed : s.ClosedOn P) (depth : Nat) :
    (s.renderUpTo depth).AlikeOn P (t.renderUpTo depth) := by
  induction depth with
  | zero =>
    intro p p' form v _ _
    cases form <;> rfl
  | succ depth ih =>
    intro p p' form v inside pending
    cases v with
    | object r =>
      simp only [Store.renderUpTo, agree.objects inside]
      cases found : s.get? r with
      | none => rfl
      | some o =>
        exact Object.render_congr agree closed ih pending inside form
          (closed.shown r o inside found)
    | misuse | initiator =>
      exact agree.renderMember closed (fun form w hw => ih p p' form w hw pending) inside rfl form
    | _ => rfl

theorem AgreesOn.render (agree : AgreesOn P s t) (closed : s.ClosedOn P) (form : Form)
    {v : Value} (inside : v.Inside P) : t.render form v = s.render form v :=
  agree.renderUpTo closed depth [] [] form v inside fun _ _ => Iff.rfl

theorem render_object {s : Store} {r : Ref} {o : Object} (found : s.get? r = some o) (form : Form) :
    s.render form (.object r) = o.render s (s.renderUpTo (depth - 1)) [] r form := by
  change s.renderUpTo (depth - 1 + 1) [] form (.object r) = _
  simp only [renderUpTo, found]

end Store

/-- The arguments of an exception are written alike within another exception, if neither of the two
can be reached from them. -/
theorem Carried.argsForm_eq_of_outside {P : Value → Prop} {render render' : Renderer}
    (alike : render.AlikeOn P render') {c c' : Carried} (args : c'.args = c.args)
    (held : ∀ v ∈ c.args, v.Inside P) {x y : Ref} (hx : ¬ P (.object (c.argsTuple.getD x)))
    (hy : ¬ P (.object (c'.argsTuple.getD y))) :
    c'.argsForm render' [] y = c.argsForm render [] x := by
  have items : c.args.mapM (render' [c'.argsTuple.getD y] .quoted) =
      c.args.mapM (render [c.argsTuple.getD x] .quoted) :=
    mapM_congr fun v hv =>
      alike _ _ .quoted v (held v hv) (Pending.alikeOn_cons_of_not hx hy [])
  simp only [argsForm, Rendering.enclosed, List.not_mem_nil, if_false, args, items]

theorem Carried.plain_eq_of_argsForm {render render' : Renderer} {c c' : Carried} {x y : Ref}
    (args : c'.args = c.args)
    (only : ∀ arg ∈ c.args, render' [] .plain arg = render [] .plain arg)
    (form : c'.argsForm render' [] y = c.argsForm render [] x) :
    c'.plain render' [] y = c.plain render [] x := by
  unfold Carried.plain
  rw [args]
  split
  · rfl
  · rename_i arg single
    exact only arg (single ▸ List.mem_cons_self)
  · exact form

end Http2Failure
