import Http2Failure.Proofs.Deeds.Clones

/-!
# Deeds of stored clones, and of all clones

What is stored of a value are its parts, or a recipe that was given out for it. A copy on the
surface shares its parts with the first value.
-/

namespace Http2Failure

open Http2Failure.Action

namespace Storing

variable {L : Licence} {first now : Session} {Visits : Value → Prop} {v : Value}

def Gathers (L : Licence) (Visits : Value → Prop) (s : Store) (storage : Storage) : Prop :=
  ∀ entry ∈ storage.stored, Cloning.MayStore L Visits s entry.1 entry.2

theorem lasting_gathers : Lasting (Gathers L Visits) := fun _ _ _ grown gathers entry he =>
  (gathers entry he).grows grown

def Parts.Visited (L : Licence) (Visits : Value → Prop) (s : Store) (parts : Parts) : Prop :=
  ∀ w, w ∈ parts.1 ∨ w ∈ parts.2 → L.Has s w ∧ Visits w

theorem visited_none {s : Store} : Parts.Visited L Visits s ([], []) := by
  intro w hw
  simp at hw

theorem does_found {stored : Stored} (may : Cloning.MayStore L Visits now.store v stored)
    {parts : Parts} (among : ∀ w, w ∈ parts.1 ∨ w ∈ parts.2 → w ∈ stored.parts) :
    DoesWith L (Gathers L Visits) (found v stored parts) now (Parts.Visited L Visits) := by
  intro storage gathers
  have run : found v stored parts storage now =
      (.ok (parts, { storage with stored := storage.stored ++ [(v, stored)] }), now) := rfl
  refine .of_deeds run (.none now) ?_
  rintro _ ⟨⟩
  refine ⟨fun w hw => may.parts w (among w hw), fun entry he => ?_⟩
  rcases List.mem_append.mp he with he | he
  · exact gathers entry he
  · cases List.mem_singleton.mp he
    exact may

theorem mem_of_partsOfRecipe (recipe : Recipe) (w : Value)
    (hw : w ∈ (partsOfRecipe recipe).1 ∨ w ∈ (partsOfRecipe recipe).2) : w ∈ recipe.parts := by
  simp only [partsOfRecipe, Recipe.parts, List.mem_cons, List.not_mem_nil, or_false] at hw ⊢
  rcases hw with hw | hw
  · tauto
  · split at hw
    · cases hw
    · split at hw
      · cases List.mem_singleton.mp hw
        tauto
      · simp only [List.mem_cons, List.not_mem_nil, or_false] at hw
        tauto

theorem does_ofParts (roams : Cloning.Roams L Visits) (other : ¬ v.Immediate) {parts : Value}
    (has : L.Has now.store parts) :
    DoesWith L (Gathers L Visits) (ofParts v parts) now (Parts.Visited L Visits) := by
  refine .of_sound fun sound => .ask_bind ?_
  split
  · exact .read_bind fun _ _ => .ask_bind (.throw _)
  · rename_i items tuple
    split
    · rename_i recipe made
      refine .read_bind fun _ _ => does_found ⟨other, fun w hw => ⟨fun tidy => ?_, roams.all w⟩,
        fun _ _ => roams⟩ (mem_of_partsOfRecipe recipe)
      rcases Recipe.mem_of_ofItems? made hw with hw | rfl
      · exact (sound tidy).object tuple w hw
      · trivial
    · exact .throw _
  · exact .throw _

theorem mem_of_ofObject {s : Store} {o : Object} {parts : Parts}
    (h : ofObject s v o = .ok parts) {w : Value} (hw : w ∈ parts.1 ∨ w ∈ parts.2) :
    w ∈ o.parts ∨ w ∈ (s.attributesOf v).map Prod.snd ∨ w = .null := by
  cases o with
  | fault f =>
    cases h
    rcases hw with hw | hw
    · exact (Fault.mem_storedArgs hw).imp_right .inr
    · exact .inl (by simp [Object.parts, Carried.parts, hw])
  | exception e =>
    cases h
    exact .inl (by rcases hw with hw | hw <;> simp [Object.parts, Carried.parts, hw])
  | error e =>
    cases h
    exact .inl (by simp_all [Object.parts])
  | list items | tuple items | method owner name =>
    cases h
    exact .inl (hw.elim (fun hw => by first | exact hw | cases hw) fun hw => by
      first | exact hw | cases hw)
  | view | released => cases h
  | _ =>
    cases h
    rcases hw with hw | hw
    · cases hw
    · rw [List.map_append, List.mem_append] at hw
      exact hw.imp id .inl

theorem does_partsOf (tour : Cloning.Tour L first .stored Visits) (deeds : Deeds L first now)
    (visits : Visits v) (has : L.Has now.store v) :
    DoesWith L (Gathers L Visits) (partsOf v) now (Parts.Visited L Visits) := by
  refine .of_sound fun sound => .ask_bind ?_
  split
  · rename_i value args given
    have replaces : (now.store.attributesOf v).Replaces .stored (now.store.asksForParts v) value
        args := .inl given
    obtain ⟨⟨name, -, held⟩, noPlaces⟩ := replaces.given
    rcases tour.replaced deeds visits replaces with ⟨refusal, run⟩ | roams
    · intro storage _
      exact .of_refused (by rw [state_bind_apply, state_lift_apply, run])
    · refine (DoesWith.lift lasting_gathers (does_apply roams.free.write (fun _ => roams.free) _
        (Licence.hasAll_of_immediate noPlaces))).bind fun parts _ _ made => ?_
      exact does_ofParts roams (Store.not_immediate_of_get? held) made
  · refine .ask_bind ?_
    cases v.enumeration? with
    | some e =>
      refine .read_bind fun value held => ?_
      have listed := Store.get?_of_heldByMember held
      have may : Cloning.MayStore L Visits now.store v (.member e value) := by
        refine ⟨Store.not_immediate_of_get? listed, List.forall_mem_singleton.mpr ⟨?_, ?_⟩, ?_⟩
        · exact fun tidy => (sound tidy).heldByMember held
        · exact tour.worn deeds visits _ (Attributes.mem_map_of_get? listed)
        · intro recipe same
          cases same
      exact does_found may fun w hw => hw.elim id (absurd · List.not_mem_nil)
    | none =>
      cases there : now.store.object? v with
      | none => exact .pure fun _ => visited_none
      | some o =>
        refine .lift lasting_gathers (.read fun _ parts given w hw => ?_)
        cases v with
        | object r =>
          rcases mem_of_ofObject given hw with hw | hw | rfl
          · exact ⟨sound.parts there w hw, tour.parts deeds visits there w hw⟩
          · exact ⟨fun tidy => (sound tidy).closed.attributesOf _ w hw, tour.worn deeds visits w hw⟩
          · exact ⟨Licence.has_of_immediate trivial, tour.immediate trivial⟩
        | _ => cases there

theorem does_storeUpTo (tour : Cloning.Tour L first .stored Visits) (depth : Nat)
    (deeds : Deeds L first now) (visits : Visits v) (has : L.Has now.store v) :
    DoesWith L (Gathers L Visits) (storeUpTo depth v) now Anything := by
  induction depth generalizing now v with
  | zero => exact .throw _
  | succ depth ih =>
    refine .get_bind fun seen _ => .ite (fun _ => .pure fun _ => trivial) fun _ => ?_
    refine (does_partsOf tour deeds visits has).bind fun ⟨before, after⟩ mid more visited => ?_
    have each : ∀ {items : List Value} {last : Session}, Deeds L mid last →
        (∀ w ∈ items, w ∈ before ∨ w ∈ after) →
          DoesWith L (Gathers L Visits) (items.forM (storeUpTo depth)) last Anything := by
      refine fun further among => .forM fun w hw mid' beyond => ?_
      obtain ⟨has, visits⟩ := visited w (among w hw)
      exact ih (deeds.trans (more.trans (further.trans beyond))) visits
        (has.grows (further.trans beyond).grows)
    refine (each (.none mid) fun _ => .inl).bind fun _ mid' further _ => .get_bind fun seen' _ => ?_
    refine .ite (fun _ => .pure fun _ => trivial) fun _ => ?_
    refine (DoesWith.modify ?_).bind fun _ _ again _ => each (further.trans again) fun _ => .inr
    exact fun _ gathers => gathers

end Storing

namespace Action

variable {L : Licence} {now : Session} {Visits : Value → Prop} {v : Value} {r : Ref} {o : Object}

theorem does_deepClone (tour : Cloning.Tour L now .deep Visits) (visits : Visits v)
    (has : L.Has now.store v) : Does L (clone .deep v) now L.Has :=
  ((Cloning.doesCloner_cloneUpTo tour Store.depth now v (.none now) visits has).run' .start).imp
    fun _ _ _ cloned => cloned.1

theorem does_storedClone (tour : Cloning.Tour L now .stored Visits) (visits : Visits v)
    (has : L.Has now.store v) : Does L (clone .stored v) now L.Has := by
  have stored := Storing.does_storeUpTo tour Store.depth (.none now) visits has {}
    fun _ he => absurd he List.not_mem_nil
  refine stored.bind fun ⟨_, storage⟩ mid deeds gathered => ?_
  have keeps : Cloning.Keeps L Visits mid.store { stored := storage.stored } :=
    ⟨fun _ he => absurd he List.not_mem_nil, gathered.2⟩
  have cloned := Cloning.doesCloner_cloneUpTo tour Store.depth mid v deeds visits
    (has.grows deeds.grows)
  exact (cloned.run' keeps).imp fun _ _ _ cloned => cloned.1

theorem tour_free (free : L.Free) (assigns : L.Assigns) (mode : CloneMode) :
    Cloning.Tour L now mode fun _ => True where
  parts _ _ _ _ _ _ _ := trivial
  worn _ _ _ _ _ := trivial
  immediate _ := trivial
  bound _ _ _ _ _ _ _ _ has := does_get (fun _ => free.write) has
  replaced _ _ _ _ _ _ := .inr ⟨fun _ => trivial, free, assigns⟩

theorem does_createWith (sound : L.Sound now.store) (found : now.store.get? r = some o)
    (frozen : o.record?.isSome) :
    Does L (createWith o (now.store.given.lookup (.object r))) now L.Has := by
  have made : MadeWith L now.store o (now.store.given.lookup (.object r)) := by
    refine ⟨?_, sound.parts found, fun attrs given => ?_⟩
    · cases given : now.store.given.lookup (.object r) with
      | none => exact .inl (Object.madeIn_of_found found given)
      | some attrs => exact .inr ⟨frozen, rfl⟩
    · refine Licence.hasAll_of fun tidy w hw => ?_
      obtain ⟨before, after, entries, -⟩ := List.lookup_eq_some_iff.mp given
      exact (sound tidy).closed.given (_, attrs)
        (entries ▸ List.mem_append_right before List.mem_cons_self) w (List.mem_cons_of_mem _ hw)
  have run : createWith o (now.store.given.lookup (.object r)) now = (.ok (.object now.store.size),
      { now with store := now.store.pushWith o (now.store.given.lookup (.object r)) }) := by
    simp only [createWith, bind_apply, create_apply, Cloning.giveMaybe_apply, pure_apply]
    rfl
  refine .of_deeds run (.push made) ?_
  rintro _ ⟨⟩
  exact Licence.has_place (Store.get?_pushWith_size _ _ _)

theorem does_copyObject (may : L.Writes) (sound : L.Sound now.store)
    (found : now.store.get? r = some o) : Does L (copyObject r o) now L.Has := by
  have held : L.HasAll now.store o.parts := sound.parts found
  cases o with
  | tuple items => exact .pure fun _ => Licence.has_place found
  | float word => exact .pure fun _ => Licence.has_place found
  | method owner name => exact does_get (fun _ => may) (held owner List.mem_cons_self)
  | view source => exact .throw _
  | released => exact .throw _
  | fault f =>
    have attributes : L.HasAll now.store (f.attributes.map Prod.snd) := fun w hw =>
      held w (by simp [Object.parts, Carried.parts, hw])
    refine .read_bind fun fresh construct => ?_
    have fresh' : ∀ {s : Store}, now.store.Grows s → L.tidy →
        (fresh.withAttributes (fresh.attributes.insertAll f.attributes)).Held s := by
      intro s grown tidy
      have args : ∀ w ∈ f.storedArgs, now.store.Has w := fun w hw =>
        (Fault.mem_storedArgs hw).elim (fun hw => held w hw tidy) (by rintro rfl; trivial)
      have built := (Fault.held_of_construct args construct).grows grown
      exact built.withAttributes (Attributes.has_insertAll built.carried.attributes
        (grown.hasAll (attributes.tidy tidy)))
    refine .ite (fun _ => ?_) fun _ => .createFreely rfl ?_
    · refine (does_argsTuple may found rfl).bind fun place mid deeds bound => .createFreely rfl ?_
      refine Licence.hasAll_of fun tidy => Fault.held_iff.mp ?_
      have built := fresh' deeds.grows tidy
      exact built.withCarried (built.carried.withArgsTuple (bound tidy))
    · exact Licence.hasAll_of fun tidy => Fault.held_iff.mp (fresh' (.refl _) tidy)
  | exception e =>
    refine (does_argsTuple may found rfl).bind fun place mid deeds bound => .createFreely rfl ?_
    intro w hw
    have among : w ∈ (Object.exception e).parts ∨ w = .object place := by
      simp only [Object.parts, Carried.parts, List.mem_append, List.mem_map, Option.mem_toList,
        Option.toList_none, List.append_nil, Option.toList_some,
        List.mem_singleton] at hw ⊢
      rcases hw with (hw | hw) | ⟨_, rfl, rfl⟩
      · exact .inl (.inl (.inl hw))
      · exact .inl (.inl (.inr hw))
      · exact .inr rfl
    rcases among with hw | rfl
    · exact (held w hw).grows deeds.grows
    · exact bound
  | error e => exact Error.does_around _ (held _ List.mem_cons_self)
  | list items => exact .createFreely rfl held
  | buffer content => exact .createFreely rfl held
  | _ => exact .ask_bind (does_createWith sound found rfl)

theorem does_copy (may : L.Writes)
    (hooked : ∀ value args, (now.store.attributesOf v).Replaces .shallow (now.store.asksForParts v)
      value args → Refused (Action.apply value args) now ∨ Cloning.Roams L Visits)
    (has : L.Has now.store v) : Does L (copy v) now L.Has := by
  refine .of_sound fun sound => .ask_bind ?_
  split
  · rename_i r o there
    have found : now.store.get? r = some o := there
    refine .ask_bind (.ite (fun _ => does_copyObject may sound found) fun _ => .ask_bind ?_)
    split
    · have replaced := Cloning.does_byAttributes? Cloning.doesCloner_pure (.none now) hooked has ‹_›
      exact replaced.run' .start
    · exact does_copyObject may sound found
  · exact .pure fun _ => has

theorem does_clone (free : L.Free) (assigns : L.Assigns) (mode : CloneMode)
    (has : L.Has now.store v) : Does L (clone mode v) now L.Has := by
  cases mode with
  | shallow =>
    have roams : Cloning.Roams L fun _ => True := ⟨fun _ => trivial, free, assigns⟩
    exact does_copy free.write (fun _ _ _ => .inr roams) has
  | deep => exact does_deepClone (tour_free free assigns _) trivial has
  | stored => exact does_storedClone (tour_free free assigns _) trivial has

end Action

end Http2Failure
