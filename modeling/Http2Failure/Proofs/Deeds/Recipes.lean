import Http2Failure.Proofs.Deeds.Calls
import Http2Failure.Recipe

/-!
# Deeds of recipes

A clone that is made after a recipe takes a state by a method of its own, or else what the state
holds is entered into it. Attributes that come with the state are set by their names, so that an
error can be given other arguments in this way.
-/

namespace Http2Failure

open Http2Failure.Action

abbrev Licence.Assigns (L : Licence) : Prop := ∀ s r, L.may s (.assign r)

namespace Recipe

def parts (recipe : Recipe) : List Value :=
  [recipe.maker, recipe.args, recipe.state, recipe.items, recipe.entries, recipe.setter]

theorem mem_of_ofItems? {items : List Value} {recipe : Recipe} (h : ofItems? items = some recipe)
    {v : Value} (hv : v ∈ recipe.parts) : v ∈ items ∨ v = .null := by
  unfold ofItems? at h
  split at h
  case h_6 => cases h
  all_goals
    cases h
    simp only [parts, List.mem_cons, List.not_mem_nil, or_false] at hv ⊢
    tauto

variable {L : Licence} {now : Session}

theorem does_ofParts {v : Value} (has : L.Has now.store v) :
    Does L (ofParts v) now fun t recipe => L.HasAll t recipe.parts := by
  refine .of_sound fun sound => .ask_bind ?_
  split
  · rename_i items listed
    refine .ite (fun _ => .throw_bind _ _) fun _ => ?_
    split
    · rename_i recipe made
      split at made
      · cases made
      · refine .pure fun _ w hw tidy => (mem_of_ofItems? made hw).elim ?_ ?_
        · exact (sound tidy).elements (has tidy) listed w
        · rintro rfl
          trivial
    · exact .throw _
  · exact .throw _
  · exact .throw _

theorem does_argsOf (maker : Value) {args : Value} (has : L.Has now.store args) :
    Does L (argsOf maker args) now L.HasAll := by
  refine .of_sound fun sound => .ask_bind ?_
  split
  · exact .pure fun _ w hw tidy => (sound tidy).elements (has tidy) ‹_› w hw
  · exact .read_bind fun _ _ => .throw _
  · exact .throw _

end Recipe

namespace Action

variable {L : Licence} {now : Session} {v : Value}

theorem does_pairOf (has : L.Has now.store v) :
    Does L (pairOf v) now fun t pair => L.Has t pair.1 ∧ L.Has t pair.2 := by
  refine .of_sound fun sound => .ask_bind ?_
  have held : ∀ {items}, now.store.elements v = .ok items → L.HasAll now.store items :=
    fun listed w hw tidy => (sound tidy).elements (has tidy) listed w hw
  split
  · rename_i a b listed
    exact .pure fun _ => ⟨held listed a List.mem_cons_self,
      held listed b (List.mem_cons_of_mem _ List.mem_cons_self)⟩
  · exact .throw _
  · exact .throw _
  · exact .throw _

theorem does_entryOf (place : Nat) (has : L.Has now.store v) :
    Does L (entryOf place v) now fun t entry => L.Has t entry.2 := by
  refine .of_sound fun sound => .ask_bind ?_
  split
  · rename_i key value listed
    refine .read_bind fun _ _ => .pure fun _ tidy => ?_
    exact (sound tidy).elements (has tidy) listed value (List.mem_cons_of_mem _ List.mem_cons_self)
  · exact .throw _
  · exact .throw _
  · exact .throw _

variable (free : L.Free)
include free

theorem does_enter (there : L.Has now.store v) (name : String) {value : Value}
    (has : L.Has now.store value) :
    Does L (enter v name value) now Anything := by
  refine .of_sound fun sound => .ask_bind (.ask_bind ?_)
  have attrs : L.HasAll now.store ((now.store.attributesOf v).map Prod.snd) :=
    Licence.hasAll_of fun tidy => (sound tidy).closed.attributesOf v
  have inserted :
      L.HasAll now.store (((now.store.attributesOf v).insert name value).map Prod.snd) := by
    intro w hw
    rcases Attributes.mem_of_mem_insert hw with rfl | hw
    · exact has
    · exact attrs w hw
  split
  · rename_i r o listed
    have found : now.store.get? r = some o := listed
    split
    · exact .throw _
    · rename_i record frozen
      refine .ite (fun _ => ?_) fun _ => .give (free.give _ _) there inserted
      let given : Session :=
        { now with store := now.store.give (.object r) (now.store.attributesOf (.object r)) }
      have touched : given.store.given.lookup (.object r) ≠ none := by
        rw [Store.lookup_give_self]
        exact nofun
      have restated : Deeds L given
          { given with store := given.store.put r (o.withField record name value) } :=
        @Deeds.restate L given r o record (free.restate _ _) found frozen touched name value has
      exact .of_deeds rfl (.trans (.give (free.give _ _) there attrs) restated) fun _ _ => trivial
  · exact .ite (fun _ => .done) fun _ => .give (free.give _ _) there inserted

theorem does_enterAll (there : L.Has now.store v) (place : Nat) {entries : List Value}
    (has : L.HasAll now.store entries) : Does L (enterAll v place entries) now Anything := by
  induction entries generalizing now place with
  | nil => exact .done
  | cons entry rest ih =>
    refine (does_entryOf place (has _ List.mem_cons_self)).bind
      fun ⟨key, value⟩ mid first held => ?_
    have others : ∀ {after : Session}, Deeds L mid after → L.HasAll after.store rest :=
      fun more w hw => (has w (List.mem_cons_of_mem _ hw)).grows (first.grows.trans more.grows)
    cases key with
    | text name =>
      refine (does_enter free (there.grows first.grows) name held).bind fun _ last more _ => ?_
      exact ih (there.grows (first.grows.trans more.grows)) (place + 1) (others more)
    | _ => exact ih (there.grows first.grows) (place + 1) (others (.none mid))

theorem does_update (there : L.Has now.store v) {state : Value} (has : L.Has now.store state) :
    Does L (update v state) now Anything := by
  refine .of_sound fun sound => ?_
  have checked : Reads (checkDictionary v) := by
    refine (Reads.ask _).bind fun record? => ?_
    split
    · exact .pure _
    · exact .pure _
    · exact .pure _
    · exact .throw _
    · exact (Reads.ask _).bind fun _ => .throw _
  refine checked.does_bind fun _ _ => .read_bind fun items listed => ?_
  exact does_enterAll free there 0 fun w hw tidy => (sound tidy).elements (has tidy) listed w hw

theorem does_setAll (assigns : L.Assigns) (there : L.Has now.store v) {entries : List Value}
    (has : L.HasAll now.store entries) : Does L (setAll v entries) now Anything := by
  induction entries generalizing now with
  | nil => exact .done
  | cons entry rest ih =>
    refine (does_pairOf (has _ List.mem_cons_self)).bind fun ⟨name, value⟩ mid first held => ?_
    have others : ∀ {after : Session}, Deeds L mid after → L.HasAll after.store rest :=
      fun more w hw => (has w (List.mem_cons_of_mem _ hw)).grows (first.grows.trans more.grows)
    cases name with
    | text name =>
      have there := there.grows first.grows
      refine (does_setAttribute free.toSets there held.2 fun _ r e _ _ => assigns _ r).bind
        fun _ _ more _ => ih (there.grows more.grows) (others more)
    | _ => exact .ask_bind (.throw_bind _ _)

omit free in
theorem reads_takesState (v : Value) : Reads (takesState v) :=
  (Reads.ask _).bind fun _ => (Reads.ask _).bind fun _ => .pure _

theorem does_setState (has : L.Has now.store v) {state : Value} (given : L.Has now.store state) :
    Does L (discard (call v "__setstate__" [state])) now Anything :=
  (does_call free.write _ _ _ _ (licensed_of_ne (fun _ => free) (by decide)) has
    (Licence.hasAll_one given)).discard

theorem does_restore (assigns : L.Assigns) (has : L.Has now.store v) {state : Value}
    (given : L.Has now.store state) : Does L (restore v state) now Anything := by
  refine (reads_takesState v).does_bind fun takes _ => ?_
  refine .ite (fun _ => does_setState free has given) fun _ => .of_sound fun sound => .ask_bind ?_
  have parts : L.Has now.store ((now.store.twoItems? state).getD (state, .null)).1 ∧
      L.Has now.store ((now.store.twoItems? state).getD (state, .null)).2 := by
    cases two : now.store.twoItems? state with
    | none => exact ⟨given, fun _ => trivial⟩
    | some pair =>
      unfold Store.twoItems? at two
      split at two
      · rename_i a b tuple
        cases two
        exact ⟨fun tidy => (sound tidy).object tuple a List.mem_cons_self,
          fun tidy => (sound tidy).object tuple b (List.mem_cons_of_mem _ List.mem_cons_self)⟩
      · cases two
  obtain ⟨hasState, hasSlots⟩ := parts
  have slotted : ∀ {mid : Session} (slots : Value), L.Has mid.store v → L.Has mid.store slots →
      Does L (do
      unless slots = .null do
        let items ← call slots "items" []
        setAll v (← read fun s => s.elements items)) mid Anything := by
    refine fun slots there has => .ite (fun _ => .done) fun _ => ?_
    refine (does_call free.write _ _ _ _ licensed_nil has Licence.hasAll_nil).bind
      fun items last more made => .of_sound fun sound' => .read_bind fun entries listed => ?_
    exact does_setAll free assigns (there.grows more.grows) fun w hw tidy =>
      (sound' tidy).elements (made tidy) listed w hw
  refine .ite (fun _ => slotted _ has hasSlots) fun _ => ?_
  exact (does_update free has hasState).bind fun _ mid deeds _ =>
    slotted _ (has.grows deeds.grows) (hasSlots.grows deeds.grows)

theorem does_restoreStored (has : L.Has now.store v) {state : Value}
    (given : L.Has now.store state) : Does L (restoreStored v state) now Anything := by
  refine (reads_takesState v).does_bind fun takes _ => ?_
  refine .ite (fun _ => does_setState free has given) fun _ => .ask_bind ?_
  split
  · exact .throw _
  · exact .throw _

end Action

end Http2Failure
