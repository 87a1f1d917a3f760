import Http2Failure.Proofs.Action
import Http2Failure.Proofs.Locality

/-!
# Forms at another depth

How deep values may nest is no matter of what they show: a form that was made, or was refused for
any other reason, is the same at every greater depth. What holds some of the forms of one depth
writes them as at the next one, and so does an object that is written over them.
-/

namespace Http2Failure

def Refusal.IsEndless (r : Refusal) : Prop := r = .endlessPlainForm ∨ r = .endlessQuotedForm

/-- The second outcome is the first one, unless that was given up because values nest too deep. -/
def Lasts {α : Type} (x y : Except Refusal α) : Prop := x = y ∨ ∃ r, r.IsEndless ∧ x = .error r

namespace Lasts

variable {α β : Type}

theorem refl (x : Except Refusal α) : Lasts x x := .inl rfl

theorem bind {x y : Except Refusal α} {f g : α → Except Refusal β} (first : Lasts x y)
    (rest : ∀ a, Lasts (f a) (g a)) : Lasts (x >>= f) (y >>= g) := by
  rcases first with rfl | ⟨r, endless, rfl⟩
  · cases x with
    | error r => exact .refl _
    | ok a => exact rest a
  · exact .inr ⟨r, endless, rfl⟩

theorem mapM {f g : α → Except Refusal β} (h : ∀ a, Lasts (f a) (g a)) (items : List α) :
    Lasts (items.mapM f) (items.mapM g) := by
  induction items with
  | nil => exact .refl _
  | cons a rest ih =>
    simp only [List.mapM_cons]
    exact (h a).bind fun _ => ih.bind fun _ => .refl _

theorem ok_of_ok {x y : Except Refusal α} (h : Lasts x y) {a : α} (made : x = .ok a) :
    y = .ok a := by
  rcases h with rfl | ⟨r, -, refused⟩
  · exact made
  · cases made.symm.trans refused

end Lasts

def Writer.Lasts (write write' : Writer) : Prop :=
  ∀ form v, Http2Failure.Lasts (write form v) (write' form v)

def Renderer.Lasts (render render' : Renderer) : Prop :=
  ∀ p, Writer.Lasts (render p) (render' p)

open Rendering

theorem Rendering.lasts_enclosed {render render' : Renderer} (h : render.Lasts render')
    (p : Pending) (place : Ref) (hint : String) {form : Writer → Except Refusal String}
    (inner : ∀ {write write' : Writer}, write.Lasts write' → Lasts (form write) (form write')) :
    Lasts (enclosed render p place hint form) (enclosed render' p place hint form) := by
  unfold enclosed
  split
  · exact .refl _
  · exact inner (h _)

theorem Record.lasts_quoted (r : Record) {write write' : Writer} (h : write.Lasts write') :
    Lasts (r.quoted write) (r.quoted write') :=
  (Lasts.mapM (fun field => (h .quoted field.2).bind fun _ => .refl _) r.fields).bind fun _ =>
    .refl _

section

variable {render render' : Renderer} (h : render.Lasts render') (p : Pending) (self : Ref)
include h

namespace Carried

theorem lasts_argsForm (c : Carried) :
    Lasts (c.argsForm render p self) (c.argsForm render' p self) :=
  lasts_enclosed h p _ _ fun write =>
    (Lasts.mapM (fun v => write .quoted v) c.args).bind fun _ => .refl _

theorem lasts_plain (c : Carried) : Lasts (c.plain render p self) (c.plain render' p self) := by
  unfold Carried.plain
  split
  · exact .refl _
  · exact h p .plain _
  · exact c.lasts_argsForm h p self

theorem lasts_quoted (className : String) (c : Carried) :
    Lasts (c.quoted render p self className) (c.quoted render' p self className) := by
  unfold Carried.quoted
  split
  · exact .refl _
  · exact (h p .quoted _).bind fun _ => .refl _
  · exact (c.lasts_argsForm h p self).bind fun _ => .refl _

end Carried

omit h in
theorem Fault.lasts_heading (f : Fault) {write write' : Writer} (h : write.Lasts write') :
    Lasts (f.heading write) (f.heading write') :=
  (h .plain _).bind fun _ => (h .plain _).bind fun _ => .refl _

theorem Fault.lasts_plain (f : Fault) :
    Lasts (f.plain render p self) (f.plain render' p self) := by
  have heading := f.lasts_heading (h p)
  unfold Fault.plain
  split
  · exact (Lasts.refl _).bind fun _ => (h p .plain _).bind fun _ => (Lasts.refl _).bind fun _ =>
      (h p .plain _).bind fun _ => .refl _
  · split
    · exact heading.bind fun _ => (h p .quoted _).bind fun _ => (h p .quoted _).bind fun _ =>
        .refl _
    · exact heading.bind fun _ => (h p .quoted _).bind fun _ => .refl _
    · split
      · exact heading
      · exact f.toCarried.lasts_plain h p self

omit h in
theorem Kind.lasts_plain (s : Store) (k : Kind) {write write' : Writer} (h : write.Lasts write') :
    Lasts (k.plain s write) (k.plain s write') := by
  cases k with
  | reset id code side =>
    exact (h .plain _).bind fun _ => (h .plain _).bind fun _ => .refl _
  | goAway data code side =>
    refine (h .plain _).bind fun _ => (h .plain _).bind fun _ => (Lasts.refl _).bind fun shown => ?_
    cases shown with
    | false => exact .refl _
    | true =>
      exact (Lasts.refl _).bind fun items =>
        (Lasts.mapM (fun v => h .quoted v) items).bind fun _ => .refl _
  | reason code | misuse m => exact (h .plain _).bind fun _ => .refl _
  | transport fault => exact h .plain fault

omit h in
theorem Reason.lasts_descriptionOf (s : Store) (v : Value)
    {plain plain' : Value → Except Refusal String} (h : Lasts (plain v) (plain' v)) :
    Lasts (Reason.descriptionOf s plain v) (Reason.descriptionOf s plain' v) := by
  unfold Reason.descriptionOf
  split
  · exact .refl _
  · refine (Lasts.refl _).bind fun code? => ?_
    cases code? with
    | some code => exact .refl _
    | none => exact h.bind fun _ => .refl _

theorem Object.lasts_render (s : Store) (form : Form) (o : Object) :
    Lasts (o.render s render p self form) (o.render s render' p self form) := by
  have frozen : ∀ r : Record, Lasts (enclosed render p self "..." fun write => r.quoted write)
      (enclosed render' p self "..." fun write => r.quoted write) := fun r =>
    lasts_enclosed h p self _ fun write => r.lasts_quoted write
  have listed : ∀ (items : List Value) (hint : String) (show' : List String → String),
      Lasts (enclosed render p self hint fun write => return show' (← items.mapM (write .quoted)))
        (enclosed render' p self hint fun write => return show' (← items.mapM (write .quoted))) :=
    fun items hint show' => lasts_enclosed h p self _ fun write =>
      (Lasts.mapM (fun v => write .quoted v) items).bind fun _ => .refl _
  cases o with
  | reason code =>
    cases form with
    | plain => exact Reason.lasts_descriptionOf s code (h p .plain code)
    | quoted => exact .refl _
  | streamId value =>
    cases form with
    | plain => exact h p .plain value
    | quoted => exact (h p .plain value).bind fun _ => .refl _
  | report r => exact frozen r.record
  | sendFailure f => exact frozen f.record
  | kind k => exact frozen k.record
  | fault f =>
    cases form with
    | plain => exact f.lasts_plain h p self
    | quoted => exact f.toCarried.lasts_quoted h p self f.cls.name
  | exception e =>
    cases form with
    | plain => exact e.toCarried.lasts_plain h p self
    | quoted => exact e.toCarried.lasts_quoted h p self e.cls.name
  | error e =>
    cases form with
    | plain =>
      simp only [Object.render]
      cases s.kind? e.kind with
      | none => exact .refl _
      | some k => exact k.lasts_plain s (h p)
    | quoted => exact (h p .quoted _).bind fun _ => .refl _
  | list items => exact listed items _ listForm
  | tuple items => exact listed items _ tupleForm
  | method owner name => exact (h p .quoted owner).bind fun _ => .refl _
  | _ => exact .refl _

end

namespace Store

theorem lasts_renderMember (s : Store) (v : Value) {write write' : Writer} (h : write.Lasts write')
    (form : Form) : Lasts (s.renderMember write v form) (s.renderMember write' v form) := by
  cases form with
  | plain => exact .refl _
  | quoted =>
    exact (Lasts.refl _).bind fun name => (Lasts.refl _).bind fun _ => (h .quoted _).bind fun _ =>
      (h .plain name).bind fun _ => .refl _

theorem lasts_renderUpTo (s : Store) (n : Nat) :
    (s.renderUpTo n).Lasts (s.renderUpTo (n + 1)) := by
  induction n with
  | zero =>
    intro p form v
    cases form with
    | plain => exact .inr ⟨_, .inl rfl, rfl⟩
    | quoted => exact .inr ⟨_, .inr rfl, rfl⟩
  | succ n ih =>
    intro p form v
    cases v with
    | object r =>
      simp only [renderUpTo]
      cases s.get? r with
      | none => exact .refl _
      | some o => exact o.lasts_render ih p r s form
    | misuse | initiator => exact s.lasts_renderMember _ (ih p) form
    | _ => exact .refl _

/-- An error shows the text of its kind, from one level further in. -/
theorem lasts_plain_error {s : Store} {e : Ref} {error : Error} {k : Kind}
    (found : s.get? e = some (.error error)) (holds : s.kind? error.kind = some k) :
    Lasts (s.plain (.object e)) (k.plain s s.render) := by
  have inner : s.plain (.object e) = k.plain s (s.renderUpTo (depth - 1) []) := by
    rw [plain, render_object found]
    simp only [Object.render, holds]
  rw [inner]
  exact k.lasts_plain s (s.lasts_renderUpTo (depth - 1) [])

end Store

end Http2Failure
