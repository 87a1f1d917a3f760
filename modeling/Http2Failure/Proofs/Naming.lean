import Http2Failure.Proofs.Deeds.Scripts

/-!
# Names of bound methods

A method is bound by reading it from a value that has it, and a clone of it keeps its name. So
whatever a script does, what is bound has the name of a method, and never that of the argument list,
which every exception has as a slot.
-/

namespace Http2Failure

namespace Action

def commonNames : List String := ["__str__", "__repr__", "__setattr__", "__delattr__", "__init__",
  "__int__", "__eq__", "__ne__", "__lt__", "__le__", "__gt__", "__ge__"]

/-- The names of the methods of each sort of values, but for errors and initiators. -/
def sortNames : List String := ["is_known", "is_zero", "is_client_initiated", "is_server_initiated",
  "next_id", "__copy__", "__deepcopy__", "__post_init__", "add_note", "with_traceback",
  "__setstate__", "append", "extend", "insert", "pop", "remove", "clear", "reverse", "copy",
  "count", "index", "release", "tobytes", "tolist"]

theorem method?_of_other {name : String} (common : name ∉ commonNames) (sort : name ∉ sortNames)
    (route : Error.Route.ofMethod? name = none) (call : Caller) (v : Value) (o? : Option Object) :
    method? call v o? name =
      match v, o? with
      | .initiator i, _ => initiatorMethod? i name
      | .object _, some (.error e) => errorMethod? call e name
      | _, _ => none := by
  simp only [commonNames, sortNames, List.mem_cons, List.not_mem_nil, or_false, not_or]
    at common sort
  have everyone : commonMethod? v o? name = none := by simp [commonMethod?, comparison?, common]
  have member : ∀ v, memberMethod? v name = none := fun v => by simp [memberMethod?, common, sort]
  have alone : ∀ method? : Option Call, (method? <|> none) = method? := fun x => by cases x <;> rfl
  rw [method?, everyone, alone]
  unfold ownMethod?
  split
  · simp [conversion?, route]
  · rw [member, alone]
  · exact member _
  · rename_i r o
    have frozen : (o.record?.bind fun record => frozenMethod? r o record name) = none := by
      simp [frozenMethod?, common, sort]
    have carried : (o.carried?.bind fun c => exceptionMethod? r o c name) = none := by
      simp [exceptionMethod?, common, sort]
    simp only [frozen, carried, alone]
    cases o with
    | error e => rfl
    | _ => simp [reasonMethod?, streamIdMethod?, listMethod?, bufferMethod?, viewMethod?, common,
      sort]
  · split <;> simp_all

theorem NamesMethod.ne_args {name : String} (named : NamesMethod name) : name ≠ "args" := by
  rintro rfl
  obtain ⟨call, v, o?, found⟩ := named
  rw [method?_of_other (by decide) (by decide) (by decide)] at found
  split at found
  · cases found
  · cases found
  · cases found

end Action

namespace Store

def MethodsNamed (s : Store) : Prop :=
  ∀ r owner name, s.get? r = some (.method owner name) → Action.NamesMethod name

variable {s t : Store}

theorem initial_methodsNamed : initial.MethodsNamed := by
  intro r owner name found
  have shared : (Object.method owner name) ∈ initial.objects.toList :=
    Array.mem_toList_iff.mpr (Array.mem_of_getElem? found)
  simp only [initial, List.mem_append, List.mem_map, List.mem_cons, List.not_mem_nil,
    or_false] at shared
  rcases shared with ⟨reason, -, same⟩ | same | same <;> cases same

theorem MethodsNamed.giveMaybe (named : s.MethodsNamed) (v : Value) (given? : Option Attributes) :
    (s.giveMaybe v given?).MethodsNamed := fun r owner name found =>
  named r owner name ((get?_giveMaybe r).symm.trans found)

theorem MethodsNamed.push {o : Object} (named : s.MethodsNamed)
    (bound : ∀ owner name, o = .method owner name →
      Action.NamesMethod name ∨ ∃ r owner, s.get? r = some (.method owner name)) :
    (s.push o).MethodsNamed := by
  intro r owner name found
  by_cases inside : r < s.size
  · exact named r owner name ((get?_push_of_lt o inside).symm.trans found)
  · have bound := lt_size_of_get? found
    rw [size_push] at bound
    obtain rfl : r = s.size :=
      Nat.le_antisymm (Nat.le_of_lt_succ bound) (Nat.le_of_not_lt inside)
    rw [get?_push_size] at found
    cases found
    rcases bound owner name rfl with given | ⟨q, owner', found⟩
    · exact given
    · exact named q owner' name found

theorem MethodsNamed.pushPlain {o : Object} (named : s.MethodsNamed) (plain : o.isPlain = true) :
    (s.push o).MethodsNamed := named.push (Object.madeIn_of_plain plain).bound

theorem MethodsNamed.pushWith {L : Licence} {o : Object} {given? : Option Attributes}
    (named : s.MethodsNamed) (made : MadeWith L s o given?) :
    (s.pushWith o given?).MethodsNamed := by
  refine (named.push ?_).giveMaybe _ _
  rcases made.made with made | ⟨frozen, -⟩
  · exact made.bound
  · rintro owner name rfl
    cases frozen

theorem MethodsNamed.put {r : Ref} {o o' : Object} (named : s.MethodsNamed)
    (found : s.get? r = some o) (same : o'.nature = o.nature) : (s.put r o').MethodsNamed := by
  intro q owner name found'
  by_cases here : r = q
  · subst here
    rw [get?_put_self o' (lt_size_of_get? found)] at found'
    cases found'
    cases Object.eq_method_of_nature same.symm
    exact named r owner name found
  · exact named q owner name ((get?_put_ne o' here).symm.trans found')

theorem MethodsNamed.releaseGone (named : s.MethodsNamed) (outside : List Value) :
    (s.releaseGone outside).MethodsNamed := by
  intro r owner name found
  rcases s.get?_releaseGone outside r with same | ⟨source, -, released⟩
  · exact named r owner name (same.symm.trans found)
  · cases released.symm.trans found

end Store

theorem Deeds.methodsNamed {L : Licence} {now after : Session} (h : Deeds L now after)
    (named : now.store.MethodsNamed) : after.store.MethodsNamed := by
  induction h with
  | none => exact named
  | trans _ _ ih ih' => exact ih' (ih named)
  | push made => exact named.pushWith made
  | @around now mid o o' given? given'? made inner filled _ _ ih =>
    obtain ⟨o₀, found, nature⟩ := inner.grows _ _ (Store.get?_pushWith_size _ _ _)
    exact ((ih (named.pushWith made)).giveMaybe _ given'?).put
      ((Store.get?_giveMaybe _).trans found) (filled.nature.trans nature.symm)
  | write _ found revises => exact named.put found revises.nature
  | @give now v _ _ attrs => exact named.giveMaybe v (some attrs)
  | remake _ found => exact named.put found (Object.nature_withFields _ _)
  | restate _ found => exact named.put found (Object.nature_withField _ _ _ _)
  | log => exact named

namespace Script

theorem after_methodsNamed {state : State} (sound : state.Sound)
    (named : state.session.store.MethodsNamed) (steps : List Step) :
    (state.after steps).session.store.MethodsNamed := by
  induction steps generalizing state with
  | nil => exact named
  | cons step rest ih =>
    exact ih (sound.step step).1
      ((State.deeds_step sound step).1.methodsNamed (named.releaseGone _))

end Script

end Http2Failure
