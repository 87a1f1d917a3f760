import Http2Failure.Fault.Construction
import Http2Failure.Proofs.Action
import Http2Failure.Proofs.Reach

/-!
# Argument lists and the faults they give

What the constructor reads out of an argument list, and what a fault keeps of it. The list that a
fault keeps, read once more, gives the same class, number, text and count again; only file names
were taken out of it. A rebuilt fault is therefore the fault itself, as long as its slots are those
that its arguments give.
-/

namespace Http2Failure

namespace Fault

theorem Class.select_select (cls : Class) (number : Value) :
    (cls.select number).select number = cls.select number := by
  by_cases general : cls = .general
  · by_cases h : cls.select number = .general
    · rw [h, ← general, h, general]
    · rw [Class.select, if_neg h]
  · have same : cls.select number = cls := if_neg general
    rw [same, same]

/-- Error number and error text of an argument list, which only two to five items have. -/
def headingOf : List Value → Option (Value × Value)
  | number :: text :: rest => if rest.length ≤ 3 then some (number, text) else none
  | _ => none

/-- The item behind number and text, unless it is the null value. -/
def thirdOf : List Value → Option Value
  | _ :: _ :: third :: more => if more.length ≤ 2 ∧ third ≠ .null then some third else none
  | _ => none

def fifthOf : List Value → Option Value
  | [_, _, _, _, fifth] => if fifth ≠ .null then some fifth else none
  | _ => none

def classOf (cls : Class) (args : List Value) : Class :=
  match headingOf args with
  | some (number, _) => cls.select number
  | none => cls

/-- The third item as a count of characters written, which the blocking class takes it for. -/
def countIn? (s : Store) (cls : Class) (third : Value) : Option (Except Refusal Int) :=
  if cls = .blocking then s.size? third else none

/-- What a fault is before any file name is taken out of its arguments. -/
def bare (cls : Class) (args : List Value) : Fault :=
  { cls := classOf cls args
    args
    errorNumber := (headingOf args).map Prod.fst
    errorText := (headingOf args).map Prod.snd }

theorem ofArgs_eq (s : Store) (cls : Class) (args : List Value) :
    ofArgs s cls args =
      match thirdOf args with
      | none => .ok (bare cls args)
      | some third =>
        match countIn? s (classOf cls args) third with
        | some count => do return { bare cls args with charactersWritten := countOf (← count) }
        | none =>
          .ok { bare cls args with
            args := args.take 2, fileName := some third, fileName2 := fifthOf args } := by
  match args with
  | [] => rfl
  | [_] => rfl
  | [number, text] => rfl
  | number :: text :: third :: more =>
    by_cases long : 3 < (third :: more).length
    · have heading : headingOf (number :: text :: third :: more) = none := if_neg (by omega)
      have third' : thirdOf (number :: text :: third :: more) = none :=
        if_neg fun h => by simp only [List.length_cons] at long; omega
      simp only [ofArgs, if_pos long, third', bare, classOf, heading, Option.map_none]
    · have heading : headingOf (number :: text :: third :: more) = some (number, text) :=
        if_pos (by omega)
      have short : more.length ≤ 2 := by simp only [List.length_cons] at long; omega
      by_cases null : third = .null
      · have third' : thirdOf (number :: text :: third :: more) = none := if_neg fun h => h.2 null
        simp only [ofArgs, if_neg long, if_pos null, third', bare, classOf, heading,
          Option.map_some]
      · have third' : thirdOf (number :: text :: third :: more) = some third :=
          if_pos ⟨short, null⟩
        have fifth : more[1]?.filter (· ≠ .null) = fifthOf (number :: text :: third :: more) := by
          match more with
          | [] | [_] => rfl
          | [_, fifth] => simp [fifthOf, Option.filter_some]
          | _ :: _ :: _ :: _ => simp at short
        simp only [ofArgs, if_neg long, if_neg null, third', bare, classOf, heading,
          Option.map_some, fifth, countIn?, List.take]
        by_cases blocking : cls.select number = .blocking
        · cases s.size? third <;> simp only [if_pos blocking]
        · simp only [if_neg blocking]

theorem classOf_classOf (cls : Class) (args : List Value) :
    classOf (classOf cls args) args = classOf cls args := by
  unfold classOf
  split
  · exact Class.select_select ..
  · rfl

theorem heading_take {args : List Value} {third : Value} (h : thirdOf args = some third) :
    headingOf (args.take 2) = headingOf args ∧ thirdOf (args.take 2) = none := by
  match args with
  | [] | [_] | [_, _] => cases h
  | number :: text :: third' :: more =>
    have short : more.length ≤ 2 := by
      by_cases short : more.length ≤ 2
      · exact short
      · simp [thirdOf, short] at h
    have heading : headingOf (number :: text :: third' :: more) = some (number, text) :=
      if_pos (by simp only [List.length_cons]; omega)
    exact ⟨heading.symm, rfl⟩

theorem countIn?_of_ok {s : Store} {cls : Class} {third : Value} {count : Int}
    (h : countIn? s cls third = some (.ok count)) (t : Store) :
    countIn? t cls third = some (.ok count) := by
  by_cases blocking : cls = .blocking
  · simp only [countIn?, if_pos blocking] at h ⊢
    cases third with
    | object r =>
      simp only [Store.size?] at h
      split at h <;> simp at h
    | _ => exact h
  · simp only [countIn?, if_neg blocking] at h
    cases h

/-- Class, number, text and count are those that the arguments give, and these give no file name. -/
def Replays (f : Fault) : Prop :=
  ∀ s, ofArgs s f.cls f.args = .ok
    { cls := f.cls
      args := f.args
      errorNumber := f.errorNumber
      errorText := f.errorText
      charactersWritten := f.charactersWritten }

/-- The three ways in which a constructor reads its arguments: there is nothing behind number and
text, or a count, or one or two file names. -/
inductive Reading (s : Store) (cls : Class) (args : List Value) : Fault → Prop
  | bare (h : thirdOf args = none) : Reading s cls args (bare cls args)
  | counted {third : Value} {count : Int} (h : thirdOf args = some third)
    (counts : countIn? s (classOf cls args) third = some (.ok count)) :
    Reading s cls args { Fault.bare cls args with charactersWritten := countOf count }
  | named {third : Value} (h : thirdOf args = some third) :
    Reading s cls args
      { Fault.bare cls args with
        args := args.take 2, fileName := some third, fileName2 := fifthOf args }

theorem reading_of_ofArgs {s : Store} {cls : Class} {args : List Value} {f : Fault}
    (h : ofArgs s cls args = .ok f) : Reading s cls args f := by
  rw [ofArgs_eq] at h
  split at h
  · cases h
    exact .bare ‹_›
  · split at h
    · rename_i found _ count counts
      cases count with
      | error => cases h
      | ok count =>
        cases h
        exact .counted found counts
    · cases h
      exact .named ‹_›

/-- Whatever arguments a fault is built from, those that it keeps replay it. -/
theorem replays_of_ofArgs {s : Store} {cls : Class} {args : List Value} {f : Fault}
    (h : ofArgs s cls args = .ok f) : f.Replays := by
  intro t
  cases reading_of_ofArgs h with
  | bare third =>
    rw [ofArgs_eq]
    simp only [Fault.bare, third, classOf_classOf]
  | counted third counts =>
    rw [ofArgs_eq]
    simp only [Fault.bare, third, classOf_classOf, countIn?_of_ok counts t]
    rfl
  | named found =>
    obtain ⟨heading, third⟩ := heading_take found
    have cls' : classOf (classOf cls args) (args.take 2) = classOf cls args := by
      rw [classOf, heading]
      exact classOf_classOf cls args
    rw [ofArgs_eq]
    simp only [Fault.bare, third, cls', heading]

theorem heading_of_ofArgs {s : Store} {cls : Class} {args : List Value} {fresh : Fault}
    (h : ofArgs s cls args = .ok fresh) :
    fresh.errorNumber = (headingOf args).map Prod.fst ∧
      fresh.errorText = (headingOf args).map Prod.snd := by
  cases reading_of_ofArgs h <;> exact ⟨rfl, rfl⟩

theorem cls_of_ofArgs {s : Store} {cls : Class} {args : List Value} {fresh : Fault}
    (h : ofArgs s cls args = .ok fresh) : fresh.cls = classOf cls args := by
  cases reading_of_ofArgs h <;> rfl

theorem carried_of_ofArgs {s : Store} {cls : Class} {args : List Value} {fresh : Fault}
    (h : ofArgs s cls args = .ok fresh) : fresh.toCarried = { args := fresh.args } := by
  cases reading_of_ofArgs h <;> rfl

theorem args_of_ofArgs {s : Store} {cls : Class} {args : List Value} {fresh : Fault}
    (h : ofArgs s cls args = .ok fresh) : fresh.args ⊆ args := by
  cases reading_of_ofArgs h with
  | bare | counted => exact List.Subset.refl _
  | named => exact List.take_subset 2 args

theorem headingOf_eq_none_iff {args : List Value} :
    headingOf args = none ↔ args.length < 2 ∨ 5 < args.length := by
  match args with
  | [] | [_] => simp [headingOf]
  | number :: text :: rest =>
    by_cases short : rest.length ≤ 3
    · have read : headingOf (number :: text :: rest) = some (number, text) := if_pos short
      simp only [read, reduceCtorEq, List.length_cons, false_iff]
      omega
    · have unread : headingOf (number :: text :: rest) = none := if_neg short
      simp only [unread, List.length_cons, true_iff]
      omega

theorem thirdOf_eq_none {args : List Value} (h : headingOf args = none) : thirdOf args = none := by
  match args with
  | [] | [_] | [_, _] => rfl
  | number :: text :: third :: more =>
    by_cases short : more.length ≤ 2
    · rw [headingOf, if_pos (by simp only [List.length_cons]; omega)] at h
      cases h
    · exact if_neg fun both => short both.1

theorem ofArgs_of_no_heading {args : List Value} (h : headingOf args = none) (s : Store)
    (cls : Class) :
    ofArgs s cls args = .ok { cls, args } := by
  rw [ofArgs_eq, thirdOf_eq_none h]
  simp only [bare, classOf, h, Option.map_none]

theorem mem_of_headingOf {args : List Value} {number text : Value}
    (h : headingOf args = some (number, text)) :
    number ∈ args ∧ text ∈ args := by
  match args with
  | [] | [_] => cases h
  | number' :: text' :: rest =>
    by_cases short : rest.length ≤ 3
    · rw [headingOf, if_pos short] at h
      cases h
      exact ⟨List.mem_cons_self, List.mem_cons_of_mem _ List.mem_cons_self⟩
    · rw [headingOf, if_neg short] at h
      cases h

theorem mem_of_thirdOf {args : List Value} {third : Value} (h : thirdOf args = some third) :
    third ∈ args := by
  match args with
  | [] | [_] | [_, _] => cases h
  | _ :: _ :: third' :: more =>
    by_cases kept : more.length ≤ 2 ∧ third' ≠ .null
    · rw [thirdOf, if_pos kept] at h
      cases h
      exact List.mem_cons_of_mem _ (List.mem_cons_of_mem _ List.mem_cons_self)
    · rw [thirdOf, if_neg kept] at h
      cases h

theorem mem_of_fifthOf {args : List Value} {fifth : Value} (h : fifthOf args = some fifth) :
    fifth ∈ args := by
  unfold fifthOf at h
  split at h
  · split at h
    · cases h
      simp
    · cases h
  · cases h

theorem slots_of_ofArgs {s : Store} {cls : Class} {args : List Value} {fresh : Fault}
    (h : ofArgs s cls args = .ok fresh) : fresh.slots ⊆ args := by
  obtain ⟨number, text⟩ := heading_of_ofArgs h
  have names : ∀ v, fresh.fileName = some v ∨ fresh.fileName2 = some v → v ∈ args := by
    cases reading_of_ofArgs h with
    | bare | counted =>
      rintro v (h | h)
      · cases h
      · cases h
    | named found =>
      rintro v (h | h)
      · cases h
        exact mem_of_thirdOf found
      · exact mem_of_fifthOf h
  intro v hv
  rcases mem_slots_iff.mp hv with hv | hv | hv | hv
  · rw [number] at hv
    obtain ⟨⟨a, b⟩, heading, rfl⟩ := Option.map_eq_some_iff.mp hv
    exact (mem_of_headingOf heading).1
  · rw [text] at hv
    obtain ⟨⟨a, b⟩, heading, rfl⟩ := Option.map_eq_some_iff.mp hv
    exact (mem_of_headingOf heading).2
  · exact names v (.inl hv)
  · exact names v (.inr hv)

theorem construct_of_isStandard {cls : Class} (standard : cls.isStandard) (s : Store)
    (args : List Value) : construct s cls args = ofArgs s cls args := by
  cases cls with
  | handshake | tls | path | tagged | quiet => cases standard
  | _ => rfl

/-- What the constructor of any class does: it reads its arguments as they are, or it reads some of
them with texts and null values of its own, and keeps some as attributes, or it ignores them. -/
inductive Built (s : Store) (cls : Class) (args : List Value) : Fault → Prop
  | quiet : Built s cls args { cls }
  | plain {f : Fault} (h : ofArgs s cls args = .ok f) : Built s cls args f
  | attributed {args' : List Value} {attrs : Attributes} {f : Fault}
    (h : ofArgs s cls args' = .ok f)
    (given : ∀ v ∈ args', v ∈ args ∨ v = .null ∨ ∃ t, v = .text t)
    (kept : attrs.map Prod.snd ⊆ args) : Built s cls args (f.withAttributes attrs)

theorem built_of_construct {s : Store} {cls : Class} {args : List Value} {f : Fault}
    (h : construct s cls args = .ok f) : Built s cls args f := by
  have attributed : ∀ {args' : List Value} {attrs : Attributes},
      (do return (← ofArgs s cls args').withAttributes attrs : Except Refusal Fault) = .ok f →
      (∀ v ∈ args', v ∈ args ∨ v = .null ∨ ∃ t, v = .text t) → attrs.map Prod.snd ⊆ args →
      Built s cls args f := by
    intro args' attrs h given kept
    obtain ⟨fresh, read, h⟩ := bind_eq_ok.mp h
    cases h
    exact .attributed read given kept
  unfold construct at h
  split at h
  · obtain ⟨text, -, h⟩ := bind_eq_ok.mp h
    exact attributed h (by simp) (by simp)
  · cases h
  · cases h
  · exact attributed h (by simp) (by simp)
  · cases h
  · cases h
  · cases h
  · exact attributed h (by simp) (by simp)
  · exact attributed h (by simp) (by simp)
  · cases h
  · cases h
  · cases h
  · cases h
  · exact attributed h (fun v hv => .inl (List.mem_cons_of_mem _ hv)) (by simp)
  · cases h
  · cases h
    exact .quiet
  · exact .plain h

/-- A fault whose arguments replay it and whose file names, where set, are not the null value. -/
structure Faithful (f : Fault) : Prop where
  replays : f.Replays
  fileName : f.fileName ≠ some .null
  fileName2 : f.fileName2 ≠ some .null

theorem thirdOf_ne_null {args : List Value} : thirdOf args ≠ some .null := by
  unfold thirdOf
  split
  · split
    · rename_i h
      exact fun same => h.2 (Option.some.inj same)
    · exact nofun
  · exact nofun

theorem fifthOf_ne_null {args : List Value} : fifthOf args ≠ some .null := by
  unfold fifthOf
  split
  · split
    · rename_i h
      exact fun same => h (Option.some.inj same)
    · exact nofun
  · exact nofun

theorem faithful_of_ofArgs {s : Store} {cls : Class} {args : List Value} {f : Fault}
    (h : ofArgs s cls args = .ok f) : f.Faithful := by
  have replays := replays_of_ofArgs h
  cases reading_of_ofArgs h with
  | bare | counted => exact ⟨replays, nofun, nofun⟩
  | named found => exact ⟨replays, found ▸ thirdOf_ne_null, fifthOf_ne_null⟩

theorem keptName_none {current : Option Value} (h : current ≠ some .null) :
    keptName current none = current := by
  unfold keptName
  split
  · exact absurd rfl h
  · rfl
  · rfl

theorem keptName_cases (current fromArgs : Option Value) :
    keptName current fromArgs = current ∨ keptName current fromArgs = fromArgs := by
  unfold keptName
  split
  · exact .inr rfl
  · exact .inr rfl
  · exact .inl rfl

def again (f : Ref) (fault : Fault) : Fault :=
  { fault with argsTuple := none, context := none, cause := some f, suppressContext := true }

/-- A faithful fault is rebuilt as it is; only its cause is new, and it shares no tuple. -/
theorem Faithful.rebuild_eq {f : Fault} (h : f.Faithful) (s : Store) (self : Ref) :
    f.rebuild s self = .ok (f.again self) := by
  simp only [rebuild, again, h.replays s, bind, Except.bind, pure, Except.pure,
    keptName_none h.fileName, keptName_none h.fileName2]

/-- The fault that is rebuilt from `f` at `self`, where the arguments give `fresh`. -/
def onto (f fresh : Fault) (self : Ref) : Fault :=
  { fresh with
    fileName := keptName f.fileName fresh.fileName
    fileName2 := keptName f.fileName2 fresh.fileName2
    attributes := f.attributes
    cause := some self
    suppressContext := true }

theorem rebuild_eq_ok_iff {s : Store} {f rebuilt : Fault} {self : Ref} :
    f.rebuild s self = .ok rebuilt ↔
      ∃ fresh, ofArgs s f.cls f.args = .ok fresh ∧ rebuilt = f.onto fresh self := by
  unfold rebuild
  cases given : ofArgs s f.cls f.args with
  | error r => simp [bind, Except.bind]
  | ok fresh =>
    simp only [bind, Except.bind, pure, Except.pure, Except.ok.injEq, exists_eq_left']
    exact eq_comm

theorem parts_onto {s : Store} {fault fresh : Fault}
    (given : ofArgs s fault.cls fault.args = .ok fresh) {self : Ref} {v : Value}
    (hv : v ∈ (Object.fault (fault.onto fresh self)).parts) :
    v ∈ (Object.fault fault).parts ∨ v = .object self := by
  have args := args_of_ofArgs given
  have carried := carried_of_ofArgs given
  have slots := slots_of_ofArgs given
  have ofArg : ∀ {w}, w ∈ fault.args → w ∈ (Object.fault fault).parts := fun hw =>
    mem_parts_iff.mpr (.inl (Carried.mem_parts_iff.mpr (.inl hw)))
  have ofSlot : ∀ {w}, w ∈ fault.slots → w ∈ (Object.fault fault).parts := fun hw =>
    mem_parts_iff.mpr (.inr hw)
  have ofFresh : ∀ {w}, w ∈ fresh.slots → w ∈ (Object.fault fault).parts := fun hw =>
    ofArg (slots hw)
  rcases mem_parts_iff.mp hv with hv | hv
  · rcases Carried.mem_parts_iff.mp hv with hv | hv | ⟨r, hr, rfl⟩
    · exact .inl (ofArg (args hv))
    · exact .inl (mem_parts_iff.mpr (.inl (Carried.mem_parts_iff.mpr (.inr (.inl hv)))))
    · rcases hr with hr | hr | hr
      · exact nomatch (congrArg Carried.argsTuple carried).symm.trans hr
      · cases hr
        exact .inr rfl
      · exact nomatch (congrArg Carried.context carried).symm.trans hr
  · rcases mem_slots_iff.mp hv with hv | hv | hv | hv
    · exact .inl (ofFresh (mem_slots_iff.mpr (.inl hv)))
    · exact .inl (ofFresh (mem_slots_iff.mpr (.inr (.inl hv))))
    · rcases keptName_cases fault.fileName fresh.fileName with same | same
      · exact .inl (ofSlot (mem_slots_iff.mpr (.inr (.inr (.inl (same ▸ hv))))))
      · exact .inl (ofFresh (mem_slots_iff.mpr (.inr (.inr (.inl (same ▸ hv))))))
    · rcases keptName_cases fault.fileName2 fresh.fileName2 with same | same
      · exact .inl (ofSlot (mem_slots_iff.mpr (.inr (.inr (.inr (same ▸ hv))))))
      · exact .inl (ofFresh (mem_slots_iff.mpr (.inr (.inr (.inr (same ▸ hv))))))

end Fault

end Http2Failure
