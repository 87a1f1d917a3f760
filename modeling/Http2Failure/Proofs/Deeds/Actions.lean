import Http2Failure.Proofs.Deeds

/-!
# Actions that do no more than they may

There is one rule for each of the actions that all others are made of. It says what is done and what
is claimed of the result, which is a matter of the store that the action leaves behind.
-/

namespace Http2Failure

namespace Action

variable {α β : Type} {L : Licence} {now : Session} {P Q : Store → α → Prop} {R : Store → β → Prop}

/-- Run from a session, the action does no more than it may, and `Q` holds of what it returns. -/
def Does (L : Licence) (x : Action α) (now : Session) (Q : Store → α → Prop) : Prop :=
  L.Sound now.store → Deeds L now (x now).2 ∧ ∀ a, (x now).1 = .ok a → Q (x now).2.store a

abbrev Anything (_ : Store) (_ : α) : Prop := True

/-- Claims that stay true of a store that grows. -/
def Lasting (Q : Store → α → Prop) : Prop := ∀ s t a, s.Grows t → Q s a → Q t a

theorem lasting_anything : Lasting (Anything : Store → α → Prop) := fun _ _ _ _ _ => trivial

namespace Does

theorem of_sound {x : Action α} (h : L.Sound now.store → Does L x now Q) : Does L x now Q :=
  fun sound => h sound sound

theorem deeds {x : Action α} (h : Does L x now Q) (sound : L.Sound now.store) :
    Deeds L now (x now).2 := (h sound).1

theorem sound {x : Action α} (h : Does L x now Q) (sound : L.Sound now.store) :
    L.Sound (x now).2.store := (h.deeds sound).sound sound

theorem imp {x : Action α} (h : Does L x now P)
    (weaker : ∀ t a, now.store.Grows t → P t a → Q t a) : Does L x now Q := by
  intro sound
  obtain ⟨deeds, returned⟩ := h sound
  exact ⟨deeds, fun a ha => weaker _ a deeds.grows (returned a ha)⟩

theorem anything {x : Action α} (h : Does L x now P) : Does L x now Anything :=
  h.imp fun _ _ _ _ => trivial

theorem of_deeds {x : Action α} {after : Session} {result : Except Refusal α}
    (run : x now = (result, after)) (deeds : Deeds L now after)
    (returned : ∀ a, result = .ok a → Q after.store a) : Does L x now Q := by
  intro _
  rw [run]
  exact ⟨deeds, returned⟩

theorem of_refused {x : Action α} {refusal : Refusal} (run : x now = (.error refusal, now)) :
    Does L x now Q := of_deeds run (.none now) nofun

theorem pure {a : α} (h : L.Sound now.store → Q now.store a) : Does L (Pure.pure a) now Q := by
  refine fun sound => ⟨Deeds.none now, ?_⟩
  rintro _ ⟨⟩
  exact h sound

theorem done {a : α} : Does L (Pure.pure a) now Anything := pure fun _ => trivial

theorem null : Does L (Pure.pure .null) now L.Has := pure fun _ _ => trivial

theorem throw (refusal : Refusal) : Does L (MonadExcept.throw refusal : Action α) now Q :=
  fun _ => ⟨Deeds.none now, nofun⟩

theorem throw_bind (refusal : Refusal) (f : α → Action β) :
    Does L ((MonadExcept.throw refusal : Action α) >>= f) now R :=
  fun _ => ⟨Deeds.none now, nofun⟩

theorem read {g : Store → Except Refusal α}
    (h : L.Sound now.store → ∀ a, g now.store = .ok a → Q now.store a) :
    Does L (Action.read g) now Q :=
  fun sound => ⟨Deeds.none now, h sound⟩

theorem ask_bind {g : Store → α} {f : α → Action β} (h : Does L (f (g now.store)) now R) :
    Does L (Action.ask g >>= f) now R := h

theorem read_bind {g : Store → Except Refusal α} {f : α → Action β}
    (h : ∀ a, g now.store = .ok a → Does L (f a) now R) : Does L (Action.read g >>= f) now R := by
  cases read : g now.store with
  | error refusal =>
    have run : (Action.read g >>= f) now = (.error refusal, now) := by
      simp only [bind_apply, read_apply, read]
    exact .of_deeds run (Deeds.none now) nofun
  | ok a =>
    have run : (Action.read g >>= f) now = f a now := by
      simp only [bind_apply, read_apply, read]
    intro sound
    rw [run]
    exact h a read sound

/-- What comes next may look at how the first action ran. -/
theorem bind_run {x : Action α} {f : α → Action β} (hx : Does L x now P)
    (hf : ∀ a mid, x now = (.ok a, mid) → Deeds L now mid → P mid.store a → Does L (f a) mid R) :
    Does L (x >>= f) now R := by
  intro sound
  have first := hx sound
  rw [bind_apply]
  rcases run : x now with ⟨refusal | a, mid⟩
  · rw [run] at first
    exact ⟨first.1, nofun⟩
  · rw [run] at first
    obtain ⟨deeds, returned⟩ := hf a mid run first.1 (first.2 a rfl) (first.1.sound sound)
    exact ⟨first.1.trans deeds, returned⟩

theorem bind {x : Action α} {f : α → Action β} (hx : Does L x now P)
    (hf : ∀ a mid, Deeds L now mid → P mid.store a → Does L (f a) mid R) :
    Does L (x >>= f) now R := hx.bind_run fun a mid _ => hf a mid

theorem ite {c : Prop} [Decidable c] {x y : Action α} (hx : c → Does L x now Q)
    (hy : ¬ c → Does L y now Q) : Does L (if c then x else y) now Q := by
  split
  · exact hx ‹_›
  · exact hy ‹_›

theorem allocate {o : Object} (made : o.MadeIn now.store) (held : L.HasAll now.store o.parts) :
    Does L (Action.allocate o) now fun t r => t.get? r = some o :=
  .of_deeds (allocate_apply now o) (.push (.of_madeIn made held)) fun _ same => by
    cases same
    exact Store.get?_push_size _ _

theorem create {o : Object} (made : o.MadeIn now.store) (held : L.HasAll now.store o.parts) :
    Does L (Action.create o) now L.Has :=
  (allocate made held).bind fun _ _ _ there => .pure fun _ _ => Store.lt_size_of_get? there

theorem createFreely {o : Object} (plain : o.isPlain = true) (held : L.HasAll now.store o.parts) :
    Does L (Action.create o) now L.Has := create (Object.madeIn_of_plain plain) held

theorem put {r : Ref} {o o' : Object} (may : L.may now.store .write)
    (found : now.store.get? r = some o) (revises : o.Revises now.store o')
    (held : L.HasAll now.store o'.parts)
    (same : o'.errorArgs = o.errorArgs ∧ o'.errorAttributes = o.errorAttributes) :
    Does L (Action.put r o') now fun t _ => t.get? r = some o' :=
  .of_deeds (put_apply now r o') (.write may found revises held
    (fun changed => absurd same.1 changed) fun changed => absurd same.2 changed) fun _ _ =>
      Store.get?_put_self _ (Store.lt_size_of_get? found)

theorem give {v : Value} {attrs : Attributes} (may : L.may now.store (.give v))
    (has : L.Has now.store v) (held : L.HasAll now.store (attrs.map Prod.snd)) :
    Does L (Action.give v attrs) now Anything := fun _ => ⟨.give may has held, fun _ _ => trivial⟩

theorem log {record : LogRecord} (may : L.may now.store .log) :
    Does L (Action.log record) now Anything :=
  fun _ => ⟨.log may record, fun _ _ => trivial⟩

theorem discard {x : Action α} (h : Does L x now P) : Does L (Functor.discard x) now Anything := by
  change Does L (x >>= fun _ => Pure.pure ()) now Anything
  exact h.bind fun _ _ _ _ => .done

/-- What an attempted action did stays done. -/
theorem attempt {x : Action α} (h : Does L x now Q) :
    Does L (Action.attempt x) now fun t result => ∀ a, result = .ok a → Q t a := by
  intro sound
  obtain ⟨deeds, returned⟩ := h sound
  refine ⟨deeds, ?_⟩
  intro result same a ok
  cases same
  exact returned a ok

theorem mapM (lasting : Lasting R) {f : α → Action β} {items : List α}
    (h : ∀ a ∈ items, ∀ mid, Deeds L now mid → Does L (f a) mid R) :
    Does L (items.mapM f) now fun t bs => ∀ b ∈ bs, R t b := by
  induction items generalizing now with
  | nil => exact .pure fun _ => nofun
  | cons a rest ih =>
    rw [List.mapM_cons]
    refine (h a List.mem_cons_self now (.none now)).bind fun b mid first hb => ?_
    refine (ih fun a ha mid' more => h a (List.mem_cons_of_mem _ ha) mid' (first.trans more)).bind
      fun bs mid' more hbs => .pure fun _ => ?_
    exact List.forall_mem_cons.mpr ⟨lasting _ _ _ more.grows hb, hbs⟩

theorem forIn {f : α → Action Unit} {items : List α}
    (h : ∀ a ∈ items, ∀ mid, Deeds L now mid → Does L (f a) mid Anything) :
    Does L (do for a in items do f a) now Anything := by
  refine bind (P := Anything) ?_ fun _ _ _ _ => .done
  induction items generalizing now with
  | nil => exact .done
  | cons a rest ih =>
    rw [List.forIn_cons, bind_assoc]
    refine (h a List.mem_cons_self now (.none now)).bind fun _ mid first _ => ?_
    exact ih fun a ha mid' more => h a (List.mem_cons_of_mem _ ha) mid' (first.trans more)

end Does

def Reads (x : Action α) : Prop := ∀ now, (x now).2 = now

namespace Reads

theorem pure (a : α) : Reads (Pure.pure a) := fun _ => rfl

theorem throw (refusal : Refusal) : Reads (MonadExcept.throw refusal : Action α) := fun _ => rfl

theorem ask (g : Store → α) : Reads (Action.ask g) := fun _ => rfl

theorem bind {x : Action α} {f : α → Action β} (hx : Reads x) (hf : ∀ a, Reads (f a)) :
    Reads (x >>= f) := by
  intro now
  have first := hx now
  rw [bind_apply]
  rcases run : x now with ⟨refusal | a, mid⟩
  · exact (congrArg Prod.snd run).symm.trans first
  · exact (hf a mid).trans ((congrArg Prod.snd run).symm.trans first)

theorem ite {c : Prop} [Decidable c] {x y : Action α} (hx : Reads x) (hy : Reads y) :
    Reads (if c then x else y) := by
  split
  · exact hx
  · exact hy

theorem mapM {f : α → Action β} (h : ∀ a, Reads (f a)) (items : List α) :
    Reads (items.mapM f) := by
  induction items with
  | nil => exact pure _
  | cons a rest ih =>
    rw [List.mapM_cons]
    exact (h a).bind fun _ => ih.bind fun _ => pure _

theorem does_bind {x : Action α} {f : α → Action β} (h : Reads x)
    (hf : ∀ a, (x now).1 = .ok a → Does L (f a) now R) : Does L (x >>= f) now R := by
  intro sound
  have first := h now
  rw [bind_apply]
  rcases run : x now with ⟨refusal | a, mid⟩
  · rw [run] at first
    cases first
    exact ⟨Deeds.none _, nofun⟩
  · rw [run] at first
    cases first
    exact hf a (congrArg Prod.fst run) sound

end Reads

def Refused (x : Action α) (now : Session) : Prop := ∃ refusal, x now = (.error refusal, now)

namespace Refused

theorem throw (refusal : Refusal) : Refused (MonadExcept.throw refusal : Action α) now :=
  ⟨refusal, rfl⟩

theorem ask_bind {g : Store → α} {f : α → Action β} (h : Refused (f (g now.store)) now) :
    Refused (Action.ask g >>= f) now := h

theorem bind {x : Action α} {f : α → Action β} (h : Refused x now) : Refused (x >>= f) now := by
  obtain ⟨refusal, run⟩ := h
  exact ⟨refusal, by rw [bind_apply, run]⟩

theorem does {x : Action α} (h : Refused x now) : Does L x now Q := by
  obtain ⟨refusal, run⟩ := h
  exact .of_deeds run (Deeds.none now) nofun

end Refused

/-- Called with these arguments, the method does no more than it may, if it is there. -/
def DoesMethod (L : Licence) (method? : Option Call) (args : List Value) (now : Session) : Prop :=
  ∀ call, method? = some call → L.HasAll now.store args → Does L (call args) now L.Has

namespace DoesMethod

variable {x y : Option Call} {call : Call} {args : List Value}

theorem absent : DoesMethod L none args now := nofun

theorem found (h : L.HasAll now.store args → Does L (call args) now L.Has) :
    DoesMethod L (some call) args now := by
  rintro _ ⟨⟩
  exact h

theorem ite {c : Prop} [Decidable c] (hx : c → DoesMethod L x args now)
    (hy : ¬ c → DoesMethod L y args now) : DoesMethod L (if c then x else y) args now := by
  split
  · exact hx ‹_›
  · exact hy ‹_›

theorem orElse (hx : DoesMethod L x args now) (hy : DoesMethod L y args now) :
    DoesMethod L (x <|> y) args now := by
  cases x with
  | none => exact hy
  | some call => exact hx

theorem bind {α : Type} {x? : Option α} {f : α → Option Call}
    (h : ∀ a, x? = some a → DoesMethod L (f a) args now) : DoesMethod L (x?.bind f) args now := by
  cases x? with
  | none => exact .absent
  | some a => exact h a rfl

theorem noArguments {owner method : String} {result : Action Value} (h : Does L result now L.Has) :
    DoesMethod L (some (noArguments owner method result)) args now :=
  .found fun _ => .ite (fun _ => h) fun _ => .throw _

theorem oneArgument {owner method argument : String} {result : Value → Action Value}
    (h : ∀ v, args = [v] → L.Has now.store v → Does L (result v) now L.Has) :
    DoesMethod L (some (oneArgument owner method argument result)) args now := by
  refine .found fun has => ?_
  match args, h, has with
  | [v], h, has => exact h v rfl (has v List.mem_cons_self)
  | [], _, _ | _ :: _ :: _, _, _ => exact .throw _

theorem exactlyOne {owner method : String} {result : Value → Action Value}
    (h : ∀ v, args = [v] → L.Has now.store v → Does L (result v) now L.Has) :
    DoesMethod L (some (exactlyOne owner method result)) args now := by
  refine .found fun has => ?_
  match args, h, has with
  | [v], h, has => exact h v rfl (has v List.mem_cons_self)
  | [], _, _ | _ :: _ :: _, _, _ => exact .throw _

theorem atMostOne {function : String} {result : Option Value → Action Value}
    (h : ∀ v?, (∀ v, v? = some v → L.Has now.store v) → Does L (result v?) now L.Has) :
    DoesMethod L (some (atMostOne function result)) args now := by
  refine .found fun has => ?_
  match args, has with
  | [], _ => exact h none nofun
  | [v], has =>
    refine h (some v) ?_
    rintro _ ⟨⟩
    exact has v List.mem_cons_self
  | _ :: _ :: _, _ => exact .throw _

theorem exactlyTwo {result : Value → Value → Action Value}
    (h : ∀ v w, args = [v, w] → L.Has now.store v → L.Has now.store w →
      Does L (result v w) now L.Has) :
    DoesMethod L (some (exactlyTwo result)) args now := by
  refine .found fun has => ?_
  match args, h, has with
  | [v, w], h, has =>
    exact h v w rfl (has v List.mem_cons_self) (has w (List.mem_cons_of_mem _ List.mem_cons_self))
  | [], _, _ | [_], _, _ | _ :: _ :: _ :: _, _, _ => exact .throw _

end DoesMethod

end Action

end Http2Failure
