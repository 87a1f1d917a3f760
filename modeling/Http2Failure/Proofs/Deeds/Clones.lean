import Http2Failure.Proofs.Cloning
import Http2Failure.Proofs.Deeds.Recipes

/-!
# Deeds of clones

Cloning makes objects and fills the clones that it has made. It does anything else only where an
attribute of a value that it comes by is called in the place of a method, so what is claimed of it
depends on which values it visits.
-/

namespace Http2Failure

open Http2Failure.Action

section

variable {σ α β : Type} {L : Licence} {now : Session} {I : Store → σ → Prop}
  {P Q : Store → α → Prop} {R : Store → β → Prop}

/-- With a memory of which `I` holds, the action does no more than it may, and leaves such a
memory. -/
def DoesWith (L : Licence) (I : Store → σ → Prop) (x : StateT σ Action α) (now : Session)
    (Q : Store → α → Prop) : Prop :=
  ∀ memory, I now.store memory → Does L (x memory) now fun t result =>
    Q t result.1 ∧ I t result.2

namespace DoesWith

theorem of_sound {x : StateT σ Action α} (h : L.Sound now.store → DoesWith L I x now Q) :
    DoesWith L I x now Q := fun memory fits => .of_sound fun sound => h sound memory fits

theorem imp {x : StateT σ Action α} (h : DoesWith L I x now P)
    (weaker : ∀ t a, now.store.Grows t → P t a → Q t a) : DoesWith L I x now Q :=
  fun memory fits => (h memory fits).imp fun t _ grown left => ⟨weaker t _ grown left.1, left.2⟩

theorem bind {x : StateT σ Action α} {f : α → StateT σ Action β} (hx : DoesWith L I x now P)
    (hf : ∀ a mid, Deeds L now mid → P mid.store a → DoesWith L I (f a) mid R) :
    DoesWith L I (x >>= f) now R := fun memory fits =>
  (hx memory fits).bind fun _ mid deeds left => hf _ mid deeds left.1 _ left.2

theorem lift (lasting : Lasting I) {x : Action α} (h : Does L x now Q) :
    DoesWith L I (liftM x : StateT σ Action α) now Q := fun _ fits =>
  h.bind fun _ _ deeds ha => .pure fun _ => ⟨ha, lasting _ _ _ deeds.grows fits⟩

theorem pure {a : α} (h : L.Sound now.store → Q now.store a) :
    DoesWith L I (Pure.pure a : StateT σ Action α) now Q :=
  fun _ fits => .pure fun sound => ⟨h sound, fits⟩

theorem throw (r : Refusal) : DoesWith L I (MonadExcept.throw r : StateT σ Action α) now Q :=
  fun memory _ => Does.throw_bind r fun a : α => Pure.pure (a, memory)

theorem ask_bind {g : Store → α} {f : α → StateT σ Action β}
    (h : DoesWith L I (f (g now.store)) now R) : DoesWith L I (liftM (ask g) >>= f) now R := h

theorem read_bind {g : Store → Except Refusal α} {f : α → StateT σ Action β}
    (h : ∀ a, g now.store = .ok a → DoesWith L I (f a) now R) :
    DoesWith L I (liftM (read g) >>= f) now R := by
  intro memory fits
  have same : (liftM (read g) >>= f : StateT σ Action β) memory =
      read g >>= fun a => f a memory := by
    change (read g >>= fun a => Pure.pure (a, memory)) >>= (fun result => f result.1 result.2) = _
    rw [bind_assoc]
    rfl
  exact same ▸ Does.read_bind fun a given => h a given memory fits

theorem get_bind {f : σ → StateT σ Action β}
    (h : ∀ memory, I now.store memory → DoesWith L I (f memory) now R) :
    DoesWith L I (get >>= f) now R := fun memory fits => h memory fits memory fits

theorem modify {f : σ → σ} (h : ∀ memory, I now.store memory → I now.store (f memory)) :
    DoesWith L I (modify f : StateT σ Action PUnit) now Anything :=
  fun memory fits => .pure fun _ => ⟨trivial, h memory fits⟩

theorem ite {c : Prop} [Decidable c] {x y : StateT σ Action α} (hx : c → DoesWith L I x now Q)
    (hy : ¬ c → DoesWith L I y now Q) : DoesWith L I (if c then x else y) now Q := by
  split
  · exact hx ‹_›
  · exact hy ‹_›

theorem mapM {E : α → Store → β → Prop} (lasting : ∀ a, Lasting (E a))
    {f : α → StateT σ Action β} {items : List α}
    (h : ∀ a ∈ items, ∀ mid, Deeds L now mid → DoesWith L I (f a) mid (E a)) :
    DoesWith L I (items.mapM f) now fun t bs => List.Forall₂ (fun a b => E a t b) items bs := by
  induction items generalizing now with
  | nil => exact pure fun _ => .nil
  | cons a rest ih =>
    rw [List.mapM_cons]
    refine (h a List.mem_cons_self now (.none now)).bind fun b mid first hb => ?_
    refine (ih fun a ha mid' more => h a (List.mem_cons_of_mem _ ha) mid' (first.trans more)).bind
      fun bs mid' more hbs => pure fun _ => .cons (lasting a _ _ _ more.grows hb) hbs

theorem forM {f : α → StateT σ Action PUnit} {items : List α}
    (h : ∀ a ∈ items, ∀ mid, Deeds L now mid → DoesWith L I (f a) mid Anything) :
    DoesWith L I (items.forM f) now Anything := by
  induction items generalizing now with
  | nil => exact pure fun _ => trivial
  | cons a rest ih =>
    refine (h a List.mem_cons_self now (.none now)).bind fun _ mid first _ => ?_
    exact ih fun a ha mid' more => h a (List.mem_cons_of_mem _ ha) mid' (first.trans more)

theorem discard {x : StateT σ Action α} (h : DoesWith L I x now P) :
    DoesWith L I (Functor.discard x) now Anything := by
  change DoesWith L I (x >>= fun _ => Pure.pure ()) now Anything
  exact h.bind fun _ _ _ _ => pure fun _ => trivial

theorem run' {x : StateT σ Action α} (h : DoesWith L I x now Q) {memory : σ}
    (fits : I now.store memory) : Does L (x.run' memory) now Q :=
  (h memory fits).bind fun _ _ _ left => .pure fun _ => left.1

end DoesWith

end

namespace Licence

variable {L : Licence} {s : Store}

theorem hasAll_of_forall₂ {α : Type} {E : α → Value → Prop} {items : List α} {vs : List Value}
    (h : List.Forall₂ (fun a v => L.Has s v ∧ E a v) items vs) : L.HasAll s vs := by
  induction h with
  | nil => exact hasAll_nil
  | cons first _ ih => exact hasAll_cons first.1 ih

theorem has_of_immediate {v : Value} (immediate : v.Immediate) : L.Has s v :=
  fun _ => immediate.mono fun _ => False.elim

theorem hasAll_of_immediate {vs : List Value} (immediate : ∀ v ∈ vs, v.Immediate) :
    L.HasAll s vs := fun v hv => has_of_immediate (immediate v hv)

end Licence

theorem Fault.mem_storedArgs {f : Fault} {v : Value} (h : v ∈ f.storedArgs) :
    v ∈ (Object.fault f).parts ∨ v = .null := by
  have parts : ∀ w, w ∈ f.args ∨ f.fileName = some w ∨ f.fileName2 = some w →
      w ∈ (Object.fault f).parts := by
    simp only [Object.parts, Carried.parts, List.mem_append, Option.mem_toList]
    tauto
  unfold storedArgs at h
  split at h
  · rename_i number text file file2 args name name2
    simp only [List.mem_cons, List.not_mem_nil, or_false] at h
    rcases h with rfl | rfl | rfl | rfl | rfl
    · exact .inl (parts _ (.inl (by simp [args])))
    · exact .inl (parts _ (.inl (by simp [args])))
    · exact .inl (parts _ (.inr (.inl name)))
    · exact .inr rfl
    · exact .inl (parts _ (.inr (.inr name2)))
  · rename_i number text file args name _
    simp only [List.mem_cons, List.not_mem_nil, or_false] at h
    rcases h with rfl | rfl | rfl
    · exact .inl (parts _ (.inl (by simp [args])))
    · exact .inl (parts _ (.inl (by simp [args])))
    · exact .inl (parts _ (.inr (.inl name)))
  · exact .inl (parts _ (.inl h))

/-- The names under which attributes can hide the methods that make a clone of most values. -/
def CloneMode.hooks : CloneMode → List String
  | .deep => ["__deepcopy__", "__reduce_ex__", "__reduce__"]
  | .shallow | .stored => ["__reduce_ex__", "__reduce__"]

namespace Attributes

/-- What is called in the place of a method that a clone is made by, and with which arguments. -/
def Replaces (attrs : Attributes) (mode : CloneMode) (asks : Bool) (value : Value)
    (args : List Value) : Prop :=
  attrs.partsCall? mode asks = some (value, args) ∨
    mode = .deep ∧ attrs.deepCopyCall? = some value ∧ args = [.null]

theorem Replaces.given {attrs : Attributes} {mode : CloneMode} {asks : Bool} {value : Value}
    {args : List Value} (replaces : attrs.Replaces mode asks value args) :
    (∃ name ∈ mode.hooks, attrs.get? name = some value) ∧ ∀ w ∈ args, w.Immediate := by
  have listed : "__reduce_ex__" ∈ mode.hooks ∧ "__reduce__" ∈ mode.hooks := by
    cases mode <;> decide
  rcases replaces with given | ⟨rfl, given, rfl⟩
  · unfold partsCall? at given
    extract_lets second? at given
    have second : second? = some (value, args) →
        (∃ name ∈ mode.hooks, attrs.get? name = some value) ∧ ∀ w ∈ args, w.Immediate := by
      intro given
      obtain ⟨_, held, same⟩ := Option.map_eq_some_iff.mp given
      cases same
      exact ⟨⟨_, listed.2, held⟩, nofun⟩
    split at given
    · split at given
      · exact second given
      · cases given
    · rename_i held
      split at given
      · exact second given
      · cases given
        exact ⟨⟨_, listed.1, held⟩, List.forall_mem_singleton.mpr trivial⟩
  · exact ⟨⟨_, List.mem_cons_self, (Option.filter_eq_some_iff.mp given).1⟩,
      List.forall_mem_singleton.mpr trivial⟩

end Attributes

theorem Store.attributesOf_of_immediate {s : Store} {v : Value} (immediate : v.Immediate) :
    s.attributesOf v = [] := by
  cases v with
  | object | misuse | initiator => exact immediate.elim
  | _ => rfl

theorem Store.not_immediate_of_get? {s : Store} {v w : Value} {name : String}
    (given : (s.attributesOf v).get? name = some w) : ¬ v.Immediate := by
  intro immediate
  rw [attributesOf_of_immediate immediate] at given
  cases given

def Stored.parts : Stored → List Value
  | .recipe given => given.parts
  | .member _ value => [value]

namespace Cloning

variable {L : Licence} {first now : Session} {Visits : Value → Prop} {r : Ref} {o : Object}
  {v : Value} {mode : CloneMode} {clone : Value → Cloning Value}

structure Roams (L : Licence) (Visits : Value → Prop) : Prop where
  all (v : Value) : Visits v
  free : L.Free
  assigns : L.Assigns

/-- Values that may be visited while a clone is made: with a value its parts and what was given to
it. What attributes put in the place of methods is refused, unless anything may be visited and
called. -/
structure Tour (L : Licence) (first : Session) (mode : CloneMode) (Visits : Value → Prop) :
    Prop where
  parts {now : Session} (deeds : Deeds L first now) {r : Ref} {o : Object}
    (visits : Visits (.object r)) (found : now.store.get? r = some o) : ∀ w ∈ o.parts, Visits w
  worn {now : Session} (deeds : Deeds L first now) {v : Value} (visits : Visits v) :
    ∀ w ∈ (now.store.attributesOf v).map Prod.snd, Visits w
  immediate {v : Value} (immediate : v.Immediate) : Visits v
  bound {now : Session} (deeds : Deeds L first now) {r : Ref} {owner : Value} {name : String}
    (visits : Visits (.object r)) (found : now.store.get? r = some (.method owner name)) :
    ∀ mid owner, L.Has mid.store owner → Does L (Action.get owner name) mid L.Has
  replaced {now : Session} (deeds : Deeds L first now) {v : Value} (visits : Visits v)
    {value : Value} {args : List Value}
    (replaces : (now.store.attributesOf v).Replaces mode (now.store.asksForParts v) value args) :
    Refused (Action.apply value args) now ∨ Roams L Visits

/-- What was stored of a value. A recipe is stored only where anything may be called. -/
structure MayStore (L : Licence) (Visits : Value → Prop) (s : Store) (v : Value) (stored : Stored) :
    Prop where
  other : ¬ v.Immediate
  parts : ∀ w ∈ stored.parts, L.Has s w ∧ Visits w
  roams : ∀ recipe, stored = .recipe recipe → Roams L Visits

theorem MayStore.grows {s t : Store} {stored : Stored} (may : MayStore L Visits s v stored)
    (grown : s.Grows t) : MayStore L Visits t v stored :=
  ⟨may.other, fun w hw => ⟨(may.parts w hw).1.grows grown, (may.parts w hw).2⟩, may.roams⟩

/-- What is remembered is there, and it is remembered of no immediate value. -/
structure Keeps (L : Licence) (Visits : Value → Prop) (s : Store) (memory : Memory) : Prop where
  clones : ∀ entry ∈ memory.clones, ¬ entry.1.Immediate ∧ L.Has s entry.2
  stored : ∀ entry ∈ memory.stored, MayStore L Visits s entry.1 entry.2

theorem Keeps.start : Keeps L Visits now.store {} :=
  ⟨fun _ he => absurd he List.not_mem_nil, fun _ he => absurd he List.not_mem_nil⟩

theorem lasting_keeps : Lasting (Keeps L Visits) := fun _ _ _ grown keeps =>
  ⟨fun entry he => ⟨(keeps.clones entry he).1, (keeps.clones entry he).2.grows grown⟩,
    fun entry he => (keeps.stored entry he).grows grown⟩

theorem Keeps.lookup {s : Store} {memory : Memory} (keeps : Keeps L Visits s memory) {w : Value}
    (known : memory.clones.lookup v = some w) : ¬ v.Immediate ∧ L.Has s w := by
  obtain ⟨before, after, entries, -⟩ := List.lookup_eq_some_iff.mp known
  exact keeps.clones (v, w) (entries ▸ List.mem_append_right before List.mem_cons_self)

/-- A clone that is there. An immediate value is its own clone. -/
def Cloned (L : Licence) (v : Value) (s : Store) (w : Value) : Prop :=
  L.Has s w ∧ (v.Immediate → w = v)

theorem lasting_cloned (v : Value) : Lasting (Cloned L v) :=
  fun _ _ _ grown cloned => ⟨cloned.1.grows grown, cloned.2⟩

def DoesCloner (L : Licence) (first : Session) (Visits : Value → Prop)
    (clone : Value → Cloning Value) : Prop :=
  ∀ now v, Deeds L first now → Visits v → L.Has now.store v →
    DoesWith L (Keeps L Visits) (clone v) now (Cloned L v)

theorem doesCloner_pure : DoesCloner L first Visits pure :=
  fun _ _ _ _ has => .pure fun _ => ⟨has, fun _ => rfl⟩

theorem does_cloned {x : Cloning Value} (other : ¬ v.Immediate)
    (h : DoesWith L (Keeps L Visits) x now L.Has) :
    DoesWith L (Keeps L Visits) x now (Cloned L v) :=
  h.imp fun _ _ _ has => ⟨has, fun immediate => absurd immediate other⟩

theorem Keeps.remember {s : Store} {memory : Memory} (keeps : Keeps L Visits s memory)
    (other : ¬ v.Immediate) {clone : Value} (has : L.Has s clone) :
    Keeps L Visits s { memory with clones := (v, clone) :: memory.clones } :=
  ⟨List.forall_mem_cons.mpr ⟨⟨other, has⟩, keeps.clones⟩, keeps.stored⟩

theorem does_remember (other : ¬ v.Immediate) {clone : Value} (has : L.Has now.store clone) :
    DoesWith L (Keeps L Visits) (remember v clone) now L.Has := by
  intro memory keeps
  refine .of_deeds (remember_apply memory now v clone) (.none now) ?_
  rintro _ ⟨⟩
  exact ⟨has, keeps.remember other has⟩

theorem does_rememberLater (other : ¬ v.Immediate) {x : Action Value}
    (h : Does L x now L.Has) : DoesWith L (Keeps L Visits) (do remember v (← x)) now L.Has :=
  (DoesWith.lift lasting_keeps h).bind fun _ _ _ has => does_remember other has

theorem does_unlessReadBack {fresh : Cloning Value}
    (h : DoesWith L (Keeps L Visits) fresh now L.Has) :
    DoesWith L (Keeps L Visits) (unlessReadBack mode v fresh) now L.Has := by
  refine .get_bind fun memory keeps => ?_
  split
  · exact .pure fun _ => (keeps.lookup ‹_›).2
  · exact h

theorem does_nextStored? (v : Value) :
    DoesWith L (Keeps L Visits) (nextStored? v) now fun t stored? =>
      ∀ stored, stored? = some stored → MayStore L Visits t v stored := by
  intro memory keeps
  refine .of_deeds (nextStored?_apply memory now v) (.none now) ?_
  rintro _ ⟨⟩
  refine ⟨fun stored known => ?_, keeps.clones, fun entry he => ?_⟩
  · obtain ⟨before, after, entries, -⟩ := List.lookup_eq_some_iff.mp known
    exact keeps.stored (v, stored) (entries ▸ List.mem_append_right before List.mem_cons_self)
  · exact keeps.stored entry (List.eraseP_subset he)

section

variable (tour : Tour L first mode Visits) (cloner : DoesCloner L first Visits clone)
  (deeds : Deeds L first now)
include cloner deeds

theorem does_clones {items : List Value} (visits : ∀ v ∈ items, Visits v)
    (has : L.HasAll now.store items) :
    DoesWith L (Keeps L Visits) (items.mapM clone) now fun t ws =>
      List.Forall₂ (fun v w => Cloned L v t w) items ws :=
  .mapM lasting_cloned fun v hv mid more =>
    cloner mid v (deeds.trans more) (visits v hv) ((has v hv).grows more.grows)

theorem does_cloneAll {items : List Value} (visits : ∀ v ∈ items, Visits v)
    (has : L.HasAll now.store items) :
    DoesWith L (Keeps L Visits) (items.mapM clone) now L.HasAll :=
  (does_clones cloner deeds visits has).imp fun _ _ _ each => Licence.hasAll_of_forall₂ each

theorem does_cloneAttributes {attrs : Attributes} (visits : ∀ w ∈ attrs.map Prod.snd, Visits w)
    (has : L.HasAll now.store (attrs.map Prod.snd)) :
    DoesWith L (Keeps L Visits) (cloneAttributes clone attrs) now fun t attrs' =>
      L.HasAll t (attrs'.map Prod.snd) := by
  refine DoesWith.imp (DoesWith.mapM
    (E := fun (_ : String × Value) t (entry : String × Value) => L.Has t entry.2)
    (fun _ _ _ _ grown held => held.grows grown) fun entry he mid more => ?_)
    fun t attrs' _ each => ?_
  · have listed := List.mem_map_of_mem (f := Prod.snd) he
    exact (cloner mid _ (deeds.trans more) (visits _ listed) ((has _ listed).grows more.grows)).bind
      fun _ _ _ cloned => .pure fun _ => cloned.1
  · induction each with
    | nil => exact Licence.hasAll_nil
    | cons held _ ih =>
      exact Licence.hasAll_cons held (ih (fun w hw => visits w (List.mem_cons_of_mem _ hw))
        fun w hw => has w (List.mem_cons_of_mem _ hw))

end

section

variable (cloner : DoesCloner L first Visits clone) (roams : Roams L Visits)
include cloner roams

theorem does_copiedArgs (deeds : Deeds L first now) {recipe : Recipe}
    (has : L.Has now.store recipe.args) :
    DoesWith L (Keeps L Visits) (copiedArgs mode clone recipe) now L.HasAll := by
  have chosen : ∀ deep : Bool, DoesWith L (Keeps L Visits) (do
      if deep then (← Action.read fun s => s.elements recipe.args).mapM clone
      else Recipe.argsOf recipe.maker recipe.args) now L.HasAll := by
    refine fun deep => .ite (fun _ => .of_sound fun sound => .read_bind fun items listed => ?_)
      fun _ => .lift lasting_keeps (Recipe.does_argsOf _ has)
    refine does_cloneAll cloner deeds (fun v _ => roams.all v) fun w hw tidy => ?_
    exact (sound tidy).elements (has tidy) listed w hw
  unfold copiedArgs
  split
  · exact .read_bind fun deep _ => chosen deep
  · exact chosen false

theorem does_appendAll (deeds : Deeds L first now) {made : Value} (has : L.Has now.store made)
    {items : List Value} (held : L.HasAll now.store items) :
    DoesWith L (Keeps L Visits) (appendAll clone made items) now Anything := by
  refine .forM fun item hi mid more => ?_
  refine (cloner mid item (deeds.trans more) (roams.all _) ((held _ hi).grows more.grows)).bind
    fun item' last further cloned => ?_
  have called : Does L (Action.call made "append" [item']) last L.Has :=
    does_call roams.free.write _ _ _ _ (licensed_of_ne (fun _ => roams.free) (by decide))
      (has.grows (more.grows.trans further.grows)) (Licence.hasAll_one cloned.1)
  exact (DoesWith.lift lasting_keeps called).discard

theorem does_setAll (deeds : Deeds L first now) (made : Value) {entries : List Value}
    (held : L.HasAll now.store entries) :
    DoesWith L (Keeps L Visits) (setAll clone made entries) now Anything := by
  refine .forM fun entry he mid more => ?_
  refine (DoesWith.lift lasting_keeps (does_pairOf ((held _ he).grows more.grows))).bind
    fun pair mid₁ more₁ hasPair => ?_
  have deeds₁ := (deeds.trans more).trans more₁
  refine (cloner mid₁ _ deeds₁ (roams.all _) hasPair.1).bind fun key mid₂ more₂ _ => ?_
  refine (cloner mid₂ _ (deeds₁.trans more₂) (roams.all _) (hasPair.2.grows more₂.grows)).bind
    fun value mid₃ _ cloned => ?_
  exact .lift lasting_keeps (does_setItem roams.free.write _ _ cloned.1)

omit cloner roams in
theorem does_itemsOf {part : Value} (has : L.Has now.store part) :
    Does L (itemsOf part) now L.HasAll :=
  .ite (fun _ => .pure fun _ => Licence.hasAll_nil) fun _ => .read fun sound _ listed w hw tidy =>
    (sound tidy).elements (has tidy) listed w hw

theorem does_furnish (deeds : Deeds L first now) {made : Value} (has : L.Has now.store made)
    {recipe : Recipe} (hasItems : L.Has now.store recipe.items)
    (hasEntries : L.Has now.store recipe.entries) :
    DoesWith L (Keeps L Visits) (do
      appendAll clone made (← itemsOf recipe.items)
      setAll clone made (← itemsOf recipe.entries)
      return made) now L.Has := by
  refine (DoesWith.lift lasting_keeps (does_itemsOf hasItems)).bind fun items mid₁ more₁ held => ?_
  refine (does_appendAll cloner roams (deeds.trans more₁) (has.grows more₁.grows) held).bind
    fun _ mid₂ more₂ _ => ?_
  have upTo₂ := more₁.trans more₂
  refine (DoesWith.lift lasting_keeps (does_itemsOf (hasEntries.grows upTo₂.grows))).bind
    fun entries mid₃ more₃ held => ?_
  have upTo₃ := upTo₂.trans more₃
  exact (does_setAll cloner roams (deeds.trans upTo₃) made held).bind
    fun _ _ more₄ _ => .pure fun _ => has.grows (upTo₃.trans more₄).grows

theorem does_follow (deeds : Deeds L first now) (other : ¬ v.Immediate) {recipe : Recipe}
    (held : L.HasAll now.store recipe.parts) :
    DoesWith L (Keeps L Visits) (follow mode clone v recipe) now L.Has := by
  have part : ∀ {mid : Session}, Deeds L now mid → ∀ w ∈ recipe.parts, L.Has mid.store w :=
    fun more w hw => (held w hw).grows more.grows
  have inParts : recipe.args ∈ recipe.parts ∧ recipe.state ∈ recipe.parts ∧
      recipe.items ∈ recipe.parts ∧ recipe.entries ∈ recipe.parts := by
    simp [Recipe.parts]
  obtain ⟨isArgs, isState, isItems, isEntries⟩ := inParts
  refine (does_copiedArgs cloner roams deeds (held _ isArgs)).bind fun args mid₁ more₁ given => ?_
  refine (DoesWith.lift lasting_keeps
    (does_apply roams.free.write (fun _ => roams.free) _ given)).bind
    fun result mid₂ more₂ has => ?_
  refine (does_remember other has).bind fun made mid₃ more₃ has => ?_
  have upTo₃ := (more₁.trans more₂).trans more₃
  have furnished : ∀ {mid : Session}, Deeds L mid₃ mid → DoesWith L (Keeps L Visits) (do
      appendAll clone made (← itemsOf recipe.items)
      setAll clone made (← itemsOf recipe.entries)
      return made) mid L.Has := fun more =>
    does_furnish cloner roams (deeds.trans (upTo₃.trans more)) (has.grows more.grows)
      (part (upTo₃.trans more) _ isItems) (part (upTo₃.trans more) _ isEntries)
  refine .ite (fun _ => furnished (.none _)) fun _ => ?_
  refine (cloner _ _ (deeds.trans upTo₃) (roams.all _) (part upTo₃ _ isState)).bind
    fun state mid₄ more₄ cloned => ?_
  exact (DoesWith.lift lasting_keeps (does_restore roams.free roams.assigns (has.grows more₄.grows)
    cloned.1)).bind fun _ _ more₅ _ => furnished (more₄.trans more₅)

theorem does_ofParts (deeds : Deeds L first now) (other : ¬ v.Immediate)
    (has : L.Has now.store v) {parts : Value} (given : L.Has now.store parts) :
    DoesWith L (Keeps L Visits) (ofParts mode clone v parts) now L.Has := by
  unfold ofParts
  split
  · exact .pure fun _ => has
  · refine (DoesWith.lift lasting_keeps (Recipe.does_ofParts given)).bind
      fun recipe _ more held => ?_
    exact does_follow cloner roams (deeds.trans more) other held

theorem does_readBack (deeds : Deeds L first now) (other : ¬ v.Immediate) {recipe : Recipe}
    (held : L.HasAll now.store recipe.parts) :
    DoesWith L (Keeps L Visits) (readBack clone v recipe) now L.Has := by
  have part : ∀ {mid : Session}, Deeds L now mid → ∀ w ∈ recipe.parts, L.Has mid.store w :=
    fun more w hw => (held w hw).grows more.grows
  have inParts : recipe.maker ∈ recipe.parts ∧ recipe.args ∈ recipe.parts ∧
      recipe.state ∈ recipe.parts ∧ recipe.setter ∈ recipe.parts := by
    simp [Recipe.parts]
  obtain ⟨isMaker, isArgs, isState, isSetter⟩ := inParts
  have cloned : ∀ {mid : Session}, Deeds L now mid → ∀ w ∈ recipe.parts,
      DoesWith L (Keeps L Visits) (clone w) mid (Cloned L w) :=
    fun more w hw => cloner _ w (deeds.trans more) (roams.all w) (part more w hw)
  refine (cloned (.none _) _ isMaker).bind fun maker mid₁ more₁ _ => ?_
  refine (cloned more₁ _ isArgs).bind fun args mid₂ more₂ hasArgs => .of_sound fun sound => ?_
  refine .read_bind fun items listed => ?_
  have given : L.HasAll mid₂.store items := fun w hw tidy =>
    (sound tidy).elements (hasArgs.1 tidy) listed w hw
  refine (DoesWith.lift lasting_keeps
    (does_apply roams.free.write (fun _ => roams.free) _ given)).bind
    fun made mid₃ more₃ hasMade => does_unlessReadBack ?_
  have upTo₃ := (more₁.trans more₂).trans more₃
  refine DoesWith.bind (P := Anything)
    ((does_remember other hasMade).bind fun _ _ _ _ => .pure fun _ => trivial)
    fun _ mid₄ more₄ _ => ?_
  have upTo₄ := upTo₃.trans more₄
  have hasMade := hasMade.grows more₄.grows
  refine .ite (fun _ => .pure fun _ => hasMade) fun _ => .ite (fun _ => ?_) fun _ => ?_
  · refine (cloned upTo₄ _ isState).bind fun state mid₅ more₅ hasState => ?_
    refine (DoesWith.lift lasting_keeps (does_restoreStored roams.free (hasMade.grows more₅.grows)
      hasState.1)).bind fun _ _ more₆ _ => .pure fun _ => ?_
    exact hasMade.grows (more₅.trans more₆).grows
  · refine (cloned upTo₄ _ isSetter).bind fun setter mid₅ more₅ _ => ?_
    refine (cloned (upTo₄.trans more₅) _ isState).bind fun state mid₆ more₆ hasState => ?_
    have hasBoth := Licence.hasAll_cons (hasMade.grows (more₅.trans more₆).grows)
      (Licence.hasAll_one hasState.1)
    refine (DoesWith.lift lasting_keeps
      (does_apply roams.free.write (fun _ => roams.free) setter hasBoth)).discard.bind
        fun _ _ more₇ _ => .pure fun _ => ?_
    exact hasMade.grows ((more₅.trans more₆).trans more₇).grows

end

section

variable (tour : Tour L first mode Visits) (cloner : DoesCloner L first Visits clone)
  (deeds : Deeds L first now)
include cloner deeds

theorem does_lookUp (other : ¬ v.Immediate) (e : Enumeration) {value : Value}
    (visits : Visits value) (has : L.Has now.store value) :
    DoesWith L (Keeps L Visits) (lookUp mode clone v e value) now L.Has := by
  refine (cloner _ _ deeds visits has).bind fun value' mid _ _ => .read_bind fun member found => ?_
  refine does_unlessReadBack (does_remember other fun _ => ?_)
  exact Store.has_of_isMember (Store.isMember_of_memberOf found)

omit cloner deeds in
theorem byAttributes?_of_immediate {s : Store} (immediate : v.Immediate) :
    byAttributes? mode clone s v = none := by
  simp [byAttributes?, Store.attributesOf_of_immediate immediate, Attributes.deepCopyCall?,
    Attributes.get?, Attributes.lacksParts, Attributes.partsCall?]

theorem does_byAttributes?
    (hooked : ∀ value args, (now.store.attributesOf v).Replaces mode (now.store.asksForParts v)
      value args → Refused (Action.apply value args) now ∨ Roams L Visits)
    (has : L.Has now.store v) {made : Cloning Value}
    (h : byAttributes? mode clone now.store v = some made) :
    DoesWith L (Keeps L Visits) made now L.Has := by
  have refused : ∀ {x : Action Value} {f : Value → Cloning Value}, Refused x now →
      DoesWith L (Keeps L Visits) (liftM x >>= f) now L.Has := by
    rintro x f ⟨refusal, run⟩ memory -
    exact .of_refused (by rw [state_bind_apply, state_lift_apply, run])
  unfold byAttributes? at h
  extract_lets attrs at h
  split at h
  · rename_i value given
    cases h
    split at given
    · rename_i deep
      have replaces : attrs.Replaces mode (now.store.asksForParts v) value [.null] :=
        .inr ⟨deep, given, rfl⟩
      obtain ⟨⟨name, -, held⟩, noPlaces⟩ := replaces.given
      rcases hooked _ _ replaces with none | roams
      · exact refused none
      · refine (DoesWith.lift lasting_keeps (does_apply roams.free.write (fun _ => roams.free) _
          (Licence.hasAll_of_immediate noPlaces))).bind fun clone' _ more made => ?_
        refine .ite (fun _ => .pure fun _ => has.grows more.grows) fun _ => ?_
        exact does_remember (Store.not_immediate_of_get? held) made
    · cases given
  · split at h
    · cases h
    · split at h
      · cases h
        exact .throw _
      · obtain ⟨⟨value, args⟩, given, rfl⟩ := Option.map_eq_some_iff.mp h
        have replaces : attrs.Replaces mode (now.store.asksForParts v) value args := .inl given
        obtain ⟨⟨name, -, held⟩, noPlaces⟩ := replaces.given
        rcases hooked _ _ replaces with none | roams
        · exact refused none
        · refine (DoesWith.lift lasting_keeps (does_apply roams.free.write (fun _ => roams.free) _
            (Licence.hasAll_of_immediate noPlaces))).bind fun parts _ more made => ?_
          exact does_ofParts cloner roams (deeds.trans more) (Store.not_immediate_of_get? held)
            (has.grows more.grows) made

end

theorem giveMaybe_apply (v : Value) (given? : Option Attributes) (now : Session) :
    Action.giveMaybe v given? now =
      (.ok (), { now with store := now.store.giveMaybe v given? }) := by
  cases given? <;> rfl

/-- The clone is filled with what the filling returns, and given what that returns besides. -/
theorem does_cloneAround {empty : Object} {given? : Option Attributes}
    (made : MadeWith L now.store empty given?) {fill : Ref → Cloning Object}
    (body : Cloning (Object × Option Attributes))
    (form : ∀ place, fill place = do
      Action.giveMaybe (.object place) given?
      let result ← body
      Action.giveMaybe (.object place) result.2
      return result.1)
    (h : ∀ mid, Deeds L now mid → DoesWith L (Keeps L Visits) body mid fun t result =>
      empty.FilledWith result.1 ∧ L.HasAll t result.1.parts ∧
        ∀ attrs, result.2 = some attrs → L.HasAll t (attrs.map Prod.snd)) :
    DoesWith L (Keeps L Visits) (cloneAround r empty fill) now L.Has := by
  intro memory keeps sound
  have pushed : Deeds L now { now with store := now.store.pushWith empty given? } := .push made
  have grown := Store.grows_pushWith now.store empty given?
  have there : L.Has (now.store.pushWith empty given?) (.object now.store.size) :=
    Licence.has_place (Store.get?_pushWith_size _ _ _)
  have inner := h _ pushed _ ((lasting_keeps _ _ _ grown keeps).remember (v := .object r) id there)
    (pushed.sound sound)
  simp only [cloneAround, state_bind_apply, state_lift_apply, allocate_apply, remember_apply, form,
    giveMaybe_apply]
  rcases run : body { memory with
    clones := (.object r, .object now.store.size) :: memory.clones }
    { now with store := now.store.pushWith empty given? } with
    ⟨refusal | ⟨⟨o, given'?⟩, memory'⟩, mid⟩
  · rw [run] at inner
    rw [Store.pushWith] at run
    simp only [run]
    exact ⟨pushed.trans inner.1, nofun⟩
  · rw [run] at inner
    rw [Store.pushWith] at run
    obtain ⟨deeds, left⟩ := inner
    obtain ⟨⟨filled, held, given⟩, keeps'⟩ := left _ rfl
    simp only [run, state_pure_apply]
    refine ⟨.around made deeds filled held given, ?_⟩
    rintro _ ⟨⟩
    have grown' := deeds.grows_filled given'? filled
    exact ⟨there.grows (deeds.grows.trans grown'), lasting_keeps _ _ _ grown' keeps'⟩

theorem does_cloneLoosely {empty : Object} (plain : empty.isPlain = true)
    (noRecord : empty.record? = none) (held : L.HasAll now.store empty.parts)
    {fill : Cloning Object}
    (h : ∀ mid, Deeds L now mid → DoesWith L (Keeps L Visits) fill mid fun t o =>
      o.nature = empty.nature ∧ L.HasAll t o.parts) :
    DoesWith L (Keeps L Visits) (cloneAround r empty fun _ => fill) now L.Has := by
  refine does_cloneAround (.of_madeIn (Object.madeIn_of_plain plain) held)
    (do return (← fill, none)) (fun place => ?_) fun mid deeds => ?_
  · simp [Action.giveMaybe]
  · exact (h mid deeds).bind fun o _ _ same =>
      .pure fun _ => ⟨.loose noRecord same.1, same.2, nofun⟩

theorem filledWith_clones {s t : Store} {record : Record} {ws : List Value}
    (held : L.HasAll s o.parts) (frozen : o.record? = some record) (grown : s.Grows t)
    (each : List.Forall₂ (fun field w => Cloned L field.2 t w) record.fields ws) :
    o.FilledWith (o.withFields ws) ∧ L.HasAll t (o.withFields ws).parts := by
  refine ⟨.frozen frozen (each.imp fun _ _ cloned => cloned.2), ?_⟩
  refine Licence.hasAll_of fun tidy => Object.Held.withFields ?_ ?_
  · exact grown.hasAll (held.tidy tidy)
  · exact (Licence.hasAll_of_forall₂ each).tidy tidy

section

variable (tour : Tour L first mode Visits) (cloner : DoesCloner L first Visits clone)
  (deeds : Deeds L first now)
include cloner deeds

theorem does_cloneWorn {empty : Object} {attrs : Attributes} {make : Attributes → Object}
    (visits : ∀ w ∈ attrs.map Prod.snd, Visits w) (has : L.HasAll now.store (attrs.map Prod.snd))
    (plain : empty.isPlain = true) (noRecord : empty.record? = none)
    (held : L.HasAll now.store empty.parts)
    (nature : ∀ attrs', (make attrs').nature = empty.nature)
    (held' : ∀ mid attrs', Deeds L now mid → L.HasAll mid.store (attrs'.map Prod.snd) →
      L.HasAll mid.store (make attrs').parts) :
    DoesWith L (Keeps L Visits) (cloneAround r empty fun _ => do
      return make (← cloneAttributes clone attrs)) now L.Has := by
  refine does_cloneLoosely plain noRecord held fun mid more => ?_
  refine (does_cloneAttributes cloner (deeds.trans more) visits (has.grows more.grows)).bind
    fun attrs' _ further worn => .pure fun _ => ⟨nature attrs', ?_⟩
  exact held' _ attrs' (more.trans further) worn

include tour

theorem does_cloneFields (held : L.HasAll now.store o.parts) (visits : Visits (.object r))
    (found : now.store.get? r = some o) {record : Record} (frozen : o.record? = some record)
    {mid : Session} (more : Deeds L now mid) :
    DoesWith L (Keeps L Visits) (record.fields.mapM fun field => clone field.2) mid fun t ws =>
      List.Forall₂ (fun field w => Cloned L field.2 t w) record.fields ws := by
  refine .mapM (fun _ => lasting_cloned _) fun field hf mid' further => ?_
  have isPart : field.2 ∈ o.parts :=
    Object.shown_subset_parts o (Object.fields_subset_shown frozen (List.mem_map_of_mem hf))
  have upTo := more.trans further
  exact cloner _ _ (deeds.trans upTo) (tour.parts deeds visits found _ isPart)
    ((held _ isPart).grows upTo.grows)

theorem does_cloneRecord (sound : L.Sound now.store) (visits : Visits (.object r))
    (found : now.store.get? r = some o) {record : Record} (frozen : o.record? = some record) :
    DoesWith L (Keeps L Visits) (cloneRecord clone r o record) now L.Has := by
  have held : L.HasAll now.store o.parts := sound.parts found
  have fields : ∀ mid, Deeds L now mid → _ := fun mid more =>
    does_cloneFields tour cloner deeds held visits found frozen more
  refine .ask_bind ?_
  cases given : now.store.given.lookup (.object r) with
  | none =>
    refine does_cloneAround (.of_madeIn (Object.madeIn_of_found found given) held) (do
      let ws ← record.fields.mapM fun field => clone field.2
      return (o.withFields ws, none)) (fun place => ?_) fun mid more => ?_
    · simp [Action.giveMaybe, giveClones]
    · refine (fields mid more).bind fun ws _ further each => .pure fun _ => ?_
      obtain ⟨fills, parts⟩ := filledWith_clones held frozen (more.trans further).grows each
      exact ⟨fills, parts, fun _ given => by cases given⟩
  | some attrs =>
    -- The clone is lent the attributes of the first one until it has clones of them.
    have plain := Object.carried?_of_record? frozen
    have same := Store.attributesOf_of_lookup found plain given
    have worn : ∀ w ∈ attrs.map Prod.snd, Visits w := same ▸ tour.worn deeds visits
    have has : L.HasAll now.store (attrs.map Prod.snd) :=
      same ▸ Licence.hasAll_of fun tidy => (sound tidy).closed.attributesOf _
    have madeWith : MadeWith L now.store o (some attrs) := by
      refine ⟨.inr ⟨frozen ▸ rfl, rfl⟩, held, ?_⟩
      rintro _ ⟨⟩
      exact has
    refine does_cloneAround madeWith (do
      let ws ← record.fields.mapM fun field => clone field.2
      let attrs' ← cloneAttributes clone attrs
      return (o.withFields ws, some attrs')) (fun place => ?_) fun mid more => ?_
    · simp [Action.giveMaybe, giveClones]
    · refine (fields mid more).bind fun ws mid₁ more₁ each => ?_
      have upTo₁ := more.trans more₁
      refine (does_cloneAttributes cloner (deeds.trans upTo₁) worn (has.grows upTo₁.grows)).bind
        fun attrs' mid₂ more₂ clones => .pure fun _ => ?_
      obtain ⟨fills, parts⟩ := filledWith_clones held frozen upTo₁.grows each
      refine ⟨fills, parts.grows more₂.grows, ?_⟩
      rintro _ ⟨⟩
      exact clones

theorem does_cloneFault {f : Fault} (held : L.HasAll now.store (Object.fault f).parts)
    (parts : ∀ w ∈ (Object.fault f).parts, Visits w) :
    DoesWith L (Keeps L Visits) (cloneObject mode clone r (.fault f)) now L.Has := by
  have stored : ∀ w ∈ f.storedArgs, Visits w ∧ L.Has now.store w := by
    intro w hw
    rcases Fault.mem_storedArgs hw with hw | rfl
    · exact ⟨parts w hw, held w hw⟩
    · exact ⟨tour.immediate trivial, Licence.has_of_immediate trivial⟩
  have attrs : ∀ w ∈ f.attributes.map Prod.snd, w ∈ (Object.fault f).parts := fun w hw => by
    simp [Object.parts, Carried.parts, hw]
  refine (does_cloneAll cloner deeds (fun w hw => (stored w hw).1)
    fun w hw => (stored w hw).2).bind fun args mid more given => ?_
  refine .read_bind fun fresh construct => does_unlessReadBack ?_
  have freshHeld : ∀ {s : Store}, mid.store.Grows s → L.tidy → fresh.Held s := fun grown tidy =>
    (Fault.held_of_construct (given.tidy tidy) construct).grows grown
  refine does_cloneWorn cloner (deeds.trans more) (fun w hw => parts w (attrs w hw))
    (fun w hw => (held w (attrs w hw)).grows more.grows) rfl rfl ?_
    (fun _ => Object.nature_fault rfl) fun last attrs' further clones => ?_
  · exact Licence.hasAll_of fun tidy => Fault.held_iff.mp (freshHeld (.refl _) tidy)
  · refine Licence.hasAll_of fun tidy => Fault.held_iff.mp ?_
    have fresh := freshHeld further.grows tidy
    exact fresh.withAttributes
      (Attributes.has_insertAll fresh.carried.attributes (clones.tidy tidy))

omit tour in
theorem does_cloneException {e : PlainException}
    (held : L.HasAll now.store (Object.exception e).parts)
    (parts : ∀ w ∈ (Object.exception e).parts, Visits w) :
    DoesWith L (Keeps L Visits) (cloneObject mode clone r (.exception e)) now L.Has := by
  have args : ∀ w ∈ e.args, w ∈ (Object.exception e).parts := fun w hw => by
    simp [Object.parts, Carried.parts, hw]
  have attrs : ∀ w ∈ e.attributes.map Prod.snd, w ∈ (Object.exception e).parts := fun w hw => by
    simp [Object.parts, Carried.parts, hw]
  refine (does_cloneAll cloner deeds (fun w hw => parts w (args w hw))
    fun w hw => held w (args w hw)).bind fun args mid more given => does_unlessReadBack ?_
  refine does_cloneWorn cloner (deeds.trans more) (fun w hw => parts w (attrs w hw))
    (fun w hw => (held w (attrs w hw)).grows more.grows) rfl rfl ?_
    (fun _ => rfl) fun last attrs' further clones => ?_
  · intro w hw
    exact given w (by simpa [Object.parts, Carried.parts] using hw)
  · intro w hw
    have among : w ∈ args ∨ w ∈ attrs'.map Prod.snd := by
      simpa [Object.parts, Carried.parts] using hw
    rcases among with hw | hw
    · exact (given w hw).grows further.grows
    · exact clones w hw

theorem does_cloneObject (visits : Visits (.object r)) (found : now.store.get? r = some o) :
    DoesWith L (Keeps L Visits) (cloneObject mode clone r o) now L.Has := by
  refine .of_sound fun sound => ?_
  have held : L.HasAll now.store o.parts := sound.parts found
  have parts := tour.parts deeds visits found
  have noPlace : ¬ (Value.object r).Immediate := id
  cases o with
  | fault f => exact does_cloneFault tour cloner deeds held parts
  | exception e => exact does_cloneException cloner deeds held parts
  | error e =>
    have kind : (.object e.kind) ∈ (Object.error e).parts := List.mem_cons_self
    refine .ite (fun _ => does_rememberLater noPlace (Error.does_around _ (held _ kind)))
      fun _ => ?_
    refine (cloner _ _ deeds (parts _ kind) (held _ kind)).bind fun kind' mid more cloned => ?_
    split
    · refine (DoesWith.lift lasting_keeps (Error.does_around _ cloned.1)).bind fun _ _ _ made => ?_
      exact does_unlessReadBack (does_remember noPlace made)
    · exact .throw _
  | view source => exact .throw _
  | released => exact .throw _
  | list items =>
    refine does_cloneLoosely rfl rfl Licence.hasAll_nil fun mid more => ?_
    exact (does_cloneAll cloner (deeds.trans more) parts
      (Licence.HasAll.grows held more.grows)).bind fun ws _ _ clones => .pure fun _ => ⟨rfl, clones⟩
  | tuple items =>
    refine (does_cloneAll cloner deeds parts held).bind fun ws mid more clones => ?_
    refine .get_bind fun memory keeps => ?_
    split
    · exact .pure fun _ => (keeps.lookup ‹_›).2
    · refine .ite (fun _ => .pure fun _ => (Licence.has_place found).grows more.grows) fun _ => ?_
      exact (DoesWith.lift lasting_keeps (does_tuple clones)).bind fun place _ _ there =>
        does_remember noPlace there.1
  | float word =>
    exact .ite (fun _ => .lift lasting_keeps (.createFreely rfl held)) fun _ =>
      .pure fun _ => Licence.has_place found
  | method owner name =>
    have isPart : owner ∈ (Object.method owner name).parts := List.mem_cons_self
    refine (cloner _ _ deeds (parts _ isPart) (held _ isPart)).bind fun owner' mid more cloned => ?_
    refine .ite (fun _ => ?_) fun _ => ?_
    · refine (DoesWith.lift lasting_keeps (tour.bound deeds visits found mid owner' cloned.1)).bind
        fun _ _ _ made => does_unlessReadBack (does_remember noPlace made)
    · obtain ⟨o, found', same⟩ := more.grows r _ found
      cases Object.eq_method_of_nature same
      exact does_rememberLater noPlace (.create (Object.madeIn_method (.inr ⟨r, owner, found'⟩))
        (Licence.hasAll_one cloned.1))
  | buffer content => exact does_rememberLater noPlace (.createFreely rfl Licence.hasAll_nil)
  | _ => exact does_cloneRecord tour cloner deeds sound visits found rfl

theorem does_cloneByClass (visits : Visits v) (has : L.Has now.store v) :
    DoesWith L (Keeps L Visits) (cloneByClass mode clone v) now (Cloned L v) := by
  refine .of_sound fun sound => ?_
  unfold cloneByClass
  split
  · rename_i r
    refine .ask_bind ?_
    split
    · exact does_cloned id (does_cloneObject tour cloner deeds visits ‹_›)
    · exact .throw _
  · split
    · rename_i e known
      have other : ¬ v.Immediate := by
        cases v with
        | misuse | initiator => exact id
        | _ => cases known
      refine .ask_bind (.ite (fun _ => .read_bind fun value held => ?_) fun _ =>
        .pure fun _ => ⟨has, fun _ => rfl⟩)
      have listed := Attributes.mem_map_of_get? (Store.get?_of_heldByMember held)
      refine does_cloned other
        (does_lookUp cloner deeds other e (tour.worn deeds visits _ listed) ?_)
      exact fun tidy => (sound tidy).heldByMember held
    · exact .pure fun _ => ⟨has, fun _ => rfl⟩

theorem does_cloneValue (visits : Visits v) (has : L.Has now.store v) :
    DoesWith L (Keeps L Visits) (cloneValue mode clone v) now (Cloned L v) := by
  have byClass := does_cloneByClass tour cloner deeds visits has
  have replacing : ∀ made, byAttributes? mode clone now.store v = some made →
      DoesWith L (Keeps L Visits) made now (Cloned L v) := by
    intro made replaced
    refine does_cloned (fun immediate => ?_)
      (does_byAttributes? cloner deeds (fun _ _ => tour.replaced deeds visits) has replaced)
    rw [byAttributes?_of_immediate immediate] at replaced
    cases replaced
  cases mode with
  | stored =>
    refine (does_nextStored? v).bind fun stored? mid more known => ?_
    have deeds := deeds.trans more
    split
    · rename_i recipe
      have may := known _ rfl
      exact does_cloned may.other (does_readBack cloner (may.roams recipe rfl) deeds may.other
        fun w hw => (may.parts w hw).1)
    · rename_i e value
      have may := known _ rfl
      obtain ⟨hasValue, visitsValue⟩ := may.parts value List.mem_cons_self
      exact does_cloned may.other (does_lookUp cloner deeds may.other e visitsValue hasValue)
    · exact does_cloneByClass tour cloner deeds visits (has.grows more.grows)
  | shallow | deep =>
    refine .ask_bind ?_
    split
    · exact replacing _ ‹_›
    · exact byClass

end

theorem doesCloner_cloneUpTo (tour : Tour L first mode Visits) (depth : Nat) :
    DoesCloner L first Visits (cloneUpTo mode depth) := by
  induction depth with
  | zero => exact fun _ _ _ _ _ => .throw _
  | succ depth ih =>
    intro now v deeds visits has
    unfold cloneUpTo
    refine .get_bind fun memory keeps => ?_
    split
    · obtain ⟨other, known⟩ := keeps.lookup ‹_›
      exact .pure fun _ => ⟨known, fun immediate => absurd immediate other⟩
    · exact does_cloneValue tour ih deeds visits has

end Cloning

end Http2Failure
