import Http2Failure.Proofs.Rebuilt

/-!
# When a rebuilt fault tells what the first one tells

A fault is rebuilt from its arguments, and from those file names that are not null. Whatever else
was written into its slots since it was built is lost. The rebuilt fault reads like the first one
exactly where the slots still are those that the arguments give, and then has the same text where
both lay it out alike, but for one coincidence: a single argument can itself be such a text.
-/

namespace Http2Failure

namespace Rendering

theorem tupleForm_opens (items : List String) : ∃ rest, tupleForm items = "(" ++ rest := by
  unfold tupleForm
  split
  · rename_i item
    exact ⟨item ++ ",)", String.append_assoc ..⟩
  · exact ⟨separated items ++ ")", String.append_assoc ..⟩

end Rendering

namespace Store

/-- How what an object holds is written within the form of the object. -/
def renderHeld (s : Store) : Renderer := s.renderUpTo (depth - 1)

def tupleAt (s : Store) (place : Ref) (args : List Value) : Except Refusal String :=
  Carried.argsForm s.renderHeld [] place { args }

theorem plain_fault {s : Store} {x : Ref} {fault : Fault} (found : s.get? x = some (.fault fault)) :
    s.plain (.object x) = fault.plain s.renderHeld [] x :=
  render_object found .plain

end Store

namespace Carried

variable {render : Renderer} {p : Pending} {c c' : Carried} {x y : Ref}

theorem plain_of_many {args : List Value} (held : c.args = args) (many : 1 < args.length) :
    c.plain render p x = argsForm render p (c.argsTuple.getD x) { args } := by
  subst held
  unfold Carried.plain
  split
  · rename_i args
    simp [args] at many
  · rename_i args
    simp [args] at many
  · rfl

theorem plain_of_few (args : c'.args = c.args) (few : c.args.length ≤ 1) :
    c'.plain render p y = c.plain render p x := by
  unfold Carried.plain
  rw [args]
  split
  · rfl
  · rfl
  · rename_i none' one
    match h : c.args with
    | [] => exact absurd h none'
    | [arg] => exact absurd h (one arg)
    | _ :: _ :: _ => simp [h] at few

end Carried

namespace Fault

inductive Layout where
  | twoNames (file file2 : Value)
  | oneName (file : Value)
  | heading
  | args

def layout (f : Fault) : Layout :=
  match f.fileName, f.fileName2 with
  | some file, some file2 => .twoNames file file2
  | some file, none => .oneName file
  | none, _ => if f.errorNumber.isSome ∧ f.errorText.isSome then .heading else .args

/-- `other` tells the same when its class and its slots are read, an unset slot as the null
value. -/
structure ReadsAs (fault other : Fault) : Prop where
  cls : other.cls = fault.cls
  errorNumber : other.errorNumber.getD .null = fault.errorNumber.getD .null
  errorText : other.errorText.getD .null = fault.errorText.getD .null
  fileName : other.fileName.getD .null = fault.fileName.getD .null
  fileName2 : other.fileName2.getD .null = fault.fileName2.getD .null

/-- The slots of a fault are those of `fresh`, which its arguments give, but for names that are
set. -/
structure AsGiven (fault fresh : Fault) : Prop where
  cls : fresh.cls = fault.cls
  errorNumber : fresh.errorNumber.getD .null = fault.errorNumber.getD .null
  errorText : fresh.errorText.getD .null = fault.errorText.getD .null
  fileName : fault.fileName.getD .null = .null → fresh.fileName = none
  fileName2 : fault.fileName2.getD .null = .null → fresh.fileName2 = none

/-- No null value is shown as a file name, and error number and text are both there or not, as in
`fresh`. -/
structure LaidOutAs (fault fresh : Fault) : Prop where
  fileName : fault.fileName ≠ some .null
  fileName2 : fault.fileName2 = some .null → fault.fileName = none
  heading : fault.fileName = none →
    (fault.errorNumber.isSome ∧ fault.errorText.isSome ↔ fresh.errorNumber.isSome)

variable {s : Store} {cls : Class} {fault fresh : Fault} {args : List Value}

theorem keptName_getD_eq_iff {current fromArgs : Option Value} (set : fromArgs ≠ some .null) :
    (keptName current fromArgs).getD .null = current.getD .null ↔
      (current.getD .null = .null → fromArgs = none) := by
  cases fromArgs with
  | none =>
    unfold keptName
    split <;> simp
  | some name =>
    have notNull : name ≠ .null := fun same => set (same ▸ rfl)
    cases current with
    | none => simp [keptName, notNull]
    | some now =>
      cases now <;> simp [keptName, notNull]

theorem readsAs_onto_iff (given : ofArgs s cls args = .ok fresh) (self : Ref) :
    fault.ReadsAs (fault.onto fresh self) ↔ fault.AsGiven fresh := by
  have names := faithful_of_ofArgs given
  constructor
  · rintro ⟨cls, number, text, file, file2⟩
    exact ⟨cls, number, text, (keptName_getD_eq_iff names.fileName).mp file,
      (keptName_getD_eq_iff names.fileName2).mp file2⟩
  · rintro ⟨cls, number, text, file, file2⟩
    exact ⟨cls, number, text, (keptName_getD_eq_iff names.fileName).mpr file,
      (keptName_getD_eq_iff names.fileName2).mpr file2⟩

section

open Rendering

variable {render : Renderer} {p : Pending} {self : Ref} {f : Fault} {text : String}

theorem plain_of_layout (notTls : f.cls ≠ .tls) :
    f.plain render p self =
      match f.layout with
      | .twoNames file file2 => do
        return (← f.heading (render p)) ++ ": " ++ (← render p .quoted file) ++ " -> " ++
          (← render p .quoted file2)
      | .oneName file => do
        return (← f.heading (render p)) ++ ": " ++ (← render p .quoted file)
      | .heading => f.heading (render p)
      | .args => f.toCarried.plain render p self := by
  unfold Fault.plain layout
  rw [if_neg notTls]
  cases f.fileName with
  | some file => cases f.fileName2 <;> rfl
  | none => cases f.errorNumber <;> cases f.errorText <;> rfl

theorem heading_opens {write : Writer} (h : f.heading write = .ok text) :
    ∃ rest, text = "[Errno " ++ rest := by
  obtain ⟨number, -, h⟩ := bind_eq_ok.mp h
  obtain ⟨words, -, h⟩ := bind_eq_ok.mp h
  cases h
  exact ⟨number ++ "] " ++ words, by simp only [String.append_assoc]⟩

theorem plain_opens (notTls : f.cls ≠ .tls) (slots : f.layout ≠ .args)
    (h : f.plain render p self = .ok text) : ∃ rest, text = "[Errno " ++ rest := by
  rw [plain_of_layout notTls] at h
  split at h
  · obtain ⟨words, heading, h⟩ := bind_eq_ok.mp h
    obtain ⟨name, -, h⟩ := bind_eq_ok.mp h
    obtain ⟨name2, -, h⟩ := bind_eq_ok.mp h
    obtain ⟨rest, rfl⟩ := heading_opens heading
    cases h
    exact ⟨rest ++ (": " ++ (name ++ (" -> " ++ name2))), by simp only [String.append_assoc]⟩
  · obtain ⟨words, heading, h⟩ := bind_eq_ok.mp h
    obtain ⟨name, -, h⟩ := bind_eq_ok.mp h
    obtain ⟨rest, rfl⟩ := heading_opens heading
    cases h
    exact ⟨rest ++ (": " ++ name), by simp only [String.append_assoc]⟩
  · exact heading_opens h
  · rename_i args
    exact absurd args slots

theorem argsForm_opens {c : Carried} (h : c.argsForm render p self = .ok text)
    (fresh : c.argsTuple.getD self ∉ p) : ∃ rest, text = "(" ++ rest := by
  rw [Carried.argsForm, enclosed, if_neg fresh] at h
  obtain ⟨items, -, h⟩ := bind_eq_ok.mp h
  cases h
  exact tupleForm_opens items

/-- A text that opens with an error number is that of a list of arguments only where it is that of
the single argument. -/
theorem single_of_opens {c : Carried} (h : c.plain render [] self = .ok text)
    (opens : ∃ rest, text = "[Errno " ++ rest) :
    ∃ arg, c.args = [arg] ∧ render [] .plain arg = .ok text := by
  obtain ⟨rest, rfl⟩ := opens
  unfold Carried.plain at h
  split at h
  · have same := Except.ok.inj h
    have chars := congrArg String.toList same
    simp [String.toList_append] at chars
  · rename_i arg args
    exact ⟨arg, args, h⟩
  · obtain ⟨rest', same⟩ := argsForm_opens h List.not_mem_nil
    have chars := congrArg String.toList same
    simp [String.toList_append] at chars

end

theorem keptName_of_null {current fromArgs : Option Value} (h : current.getD .null = .null) :
    keptName current fromArgs = fromArgs := by
  cases current with
  | none => rfl
  | some name =>
    cases h
    rfl

theorem keptName_of_ne_null {name : Value} (h : name ≠ .null) (fromArgs : Option Value) :
    keptName (some name) fromArgs = some name := by
  cases name <;> first | rfl | exact absurd rfl h

theorem layout_onto_eq_iff (given : ofArgs s cls args = .ok fresh) (same : fault.AsGiven fresh)
    (self : Ref) : (fault.onto fresh self).layout = fault.layout ↔ fault.LaidOutAs fresh := by
  obtain ⟨number, text⟩ := heading_of_ofArgs given
  have both : fresh.errorNumber.isSome ∧ fresh.errorText.isSome ↔ fresh.errorNumber.isSome := by
    simp only [number, text, Option.isSome_map, and_self]
  have alike : fault.LaidOutAs fresh ↔ fault.fileName ≠ some .null ∧
      (fault.fileName2 = some .null → fault.fileName = none) ∧
      (fault.fileName = none →
        (fault.errorNumber.isSome ∧ fault.errorText.isSome ↔ fresh.errorNumber.isSome)) :=
    ⟨fun h => ⟨h.1, h.2, h.3⟩, fun h => ⟨h.1, h.2.1, h.2.2⟩⟩
  have file := same.fileName
  have file2 := same.fileName2
  rw [alike, layout, layout, onto]
  cases hf : fault.fileName with
  | none =>
    rw [hf] at file
    simp only [file rfl, keptName, both]
    by_cases now : fault.errorNumber.isSome ∧ fault.errorText.isSome <;>
      by_cases then' : fresh.errorNumber.isSome <;> simp [now, then']
  | some name =>
    by_cases null : name = .null
    · subst null
      rw [hf] at file
      simp only [file rfl, keptName]
      cases fault.fileName2 <;> split <;> simp
    · simp only [keptName_of_ne_null null]
      cases hf2 : fault.fileName2 with
      | none =>
        rw [hf2] at file2
        simp [file2 rfl, keptName, null]
      | some name2 =>
        by_cases null2 : name2 = .null
        · subst null2
          rw [hf2] at file2
          simp [file2 rfl, keptName]
        · simp [keptName_of_ne_null null2, null, null2]

theorem layout_eq_args_iff {f : Fault} :
    f.layout = .args ↔ f.fileName = none ∧ ¬ (f.errorNumber.isSome ∧ f.errorText.isSome) := by
  unfold layout
  cases f.fileName with
  | some file => cases f.fileName2 <;> simp
  | none => by_cases both : f.errorNumber.isSome ∧ f.errorText.isSome <;> simp [both]

theorem of_layout_onto_args (given : ofArgs s fault.cls fault.args = .ok fresh) {self : Ref}
    (h : (fault.onto fresh self).layout = .args) :
    headingOf fault.args = none ∧ fresh = { cls := fault.cls, args := fault.args } := by
  obtain ⟨number, text⟩ := heading_of_ofArgs given
  obtain ⟨-, lacking⟩ := layout_eq_args_iff.mp h
  have none' : headingOf fault.args = none := by
    cases heading : headingOf fault.args with
    | none => rfl
    | some pair =>
      rw [heading] at number text
      exact absurd ⟨by rw [onto, number]; rfl, by rw [onto, text]; rfl⟩ lacking
  rw [ofArgs_of_no_heading none'] at given
  exact ⟨none', (Except.ok.inj given).symm⟩

section

variable {render : Renderer} {text : String} {x y : Ref}

theorem AsGiven.onto_ne_tls (same : fault.AsGiven fresh) (notTls : fault.cls ≠ .tls) (self : Ref) :
    (fault.onto fresh self).cls ≠ .tls := fun tls => notTls (same.cls ▸ tls)

theorem AsGiven.fileName_onto (same : fault.AsGiven fresh)
    (none' : fault.fileName.getD .null = .null)
    (self : Ref) : (fault.onto fresh self).fileName = none :=
  (keptName_of_null none').trans (same.fileName none')

theorem AsGiven.fileName2_onto (same : fault.AsGiven fresh)
    (none' : fault.fileName2.getD .null = .null) (self : Ref) :
    (fault.onto fresh self).fileName2 = none :=
  (keptName_of_null none').trans (same.fileName2 none')

theorem heading_onto (same : fault.AsGiven fresh) (self : Ref) (write : Writer) :
    (fault.onto fresh self).heading write = fault.heading write := by
  simp only [heading, onto, same.errorNumber, same.errorText]

theorem layout_of_unnamed {f : Fault} (unnamed : f.fileName = none) (h : f.layout ≠ .args) :
    f.layout = .heading := by
  unfold layout at h ⊢
  rw [unnamed] at h ⊢
  by_cases both : f.errorNumber.isSome ∧ f.errorText.isSome
  · exact if_pos both
  · exact absurd (if_neg both) h

theorem plain_of_named {f : Fault} (notTls : f.cls ≠ .tls) {name : Value}
    (named : f.fileName = some name) (h : f.plain render [] x = .ok text) :
    ∃ words shown rest, f.heading (render []) = .ok words ∧ render [] .quoted name = .ok shown ∧
      text = words ++ ": " ++ shown ++ rest ∧ (rest.length = 0 ↔ f.fileName2 = none) := by
  rw [plain_of_layout notTls, layout, named] at h
  cases named2 : f.fileName2 with
  | none =>
    rw [named2] at h
    obtain ⟨words, heading, h⟩ := bind_eq_ok.mp h
    obtain ⟨shown, quoted, h⟩ := bind_eq_ok.mp h
    cases h
    exact ⟨words, shown, "", heading, quoted, String.append_empty.symm, by simp⟩
  | some name2 =>
    rw [named2] at h
    obtain ⟨words, heading, h⟩ := bind_eq_ok.mp h
    obtain ⟨shown, quoted, h⟩ := bind_eq_ok.mp h
    obtain ⟨shown2, -, h⟩ := bind_eq_ok.mp h
    cases h
    refine ⟨words, shown, " -> " ++ shown2, heading, quoted, String.append_assoc .., ?_⟩
    simp [String.length_append]

theorem not_plain_of_named (notTls : fault.cls ≠ .tls) (same : fault.AsGiven fresh)
    (differ : (fault.onto fresh x).layout ≠ fault.layout)
    (listed : (fault.onto fresh x).layout ≠ .args) {name : Value}
    (named : fault.fileName = some name) (first : fault.plain render [] x = .ok text) :
    (fault.onto fresh x).plain render [] y ≠ .ok text := by
  intro second
  have notTls' := same.onto_ne_tls notTls x
  obtain ⟨words, shown, rest, heading, quoted, rfl, long⟩ := plain_of_named notTls named first
  by_cases null : name = .null
  · subst null
    have unnamed := same.fileName_onto (by rw [named]; rfl) x
    rw [plain_of_layout notTls', layout_of_unnamed unnamed listed] at second
    have heading' := (heading_onto same x (render [])).symm.trans second
    have length := congrArg String.length (Except.ok.inj (heading.symm.trans heading'))
    have colon : ": ".length = 2 := rfl
    simp only [String.length_append, colon] at length
    omega
  · have named' : (fault.onto fresh x).fileName = some name := by
      rw [onto, named, keptName_of_ne_null null]
    obtain ⟨words', shown', rest', heading', quoted', same', long'⟩ :=
      plain_of_named notTls' named' second
    rw [heading_onto same, heading] at heading'
    rw [quoted] at quoted'
    cases heading'
    cases quoted'
    have length := congrArg String.length same'
    simp only [String.length_append] at length
    have both : fault.fileName2 = none ↔ (fault.onto fresh x).fileName2 = none := by
      rw [← long, ← long']
      omega
    apply differ
    rw [layout, layout, named, named']
    cases named2 : fault.fileName2 with
    | none => rw [both.mp named2]
    | some name2 =>
      by_cases null2 : name2 = .null
      · subst null2
        have unnamed := same.fileName2_onto (by rw [named2]; rfl) x
        exact absurd (both.mpr unnamed) (by rw [named2]; exact nofun)
      · rw [onto, named2, keptName_of_ne_null null2]

/-- Two texts that are laid out differently are the same only by a coincidence. -/
theorem single_of_layout_ne (notTls : fault.cls ≠ .tls)
    (given : ofArgs s fault.cls fault.args = .ok fresh) (same : fault.AsGiven fresh)
    (differ : (fault.onto fresh x).layout ≠ fault.layout)
    (first : fault.plain render [] x = .ok text)
    (second : (fault.onto fresh x).plain render [] y = .ok text) :
    ∃ arg, fault.args = [arg] ∧ fault.fileName.getD .null = .null ∧
      render [] .plain arg = .ok text := by
  have notTls' := same.onto_ne_tls notTls x
  have names := ((readsAs_onto_iff given x).mpr same).fileName
  by_cases listed : (fault.onto fresh x).layout = .args
  · obtain ⟨-, rfl⟩ := of_layout_onto_args given listed
    have opens := plain_opens notTls (fun args => differ (listed.trans args.symm)) first
    rw [plain_of_layout notTls', listed] at second
    obtain ⟨arg, args, shown⟩ := single_of_opens second opens
    rw [(layout_eq_args_iff.mp listed).1] at names
    exact ⟨arg, args, names.symm, shown⟩
  by_cases listed' : fault.layout = .args
  · obtain ⟨unnamed, -⟩ := layout_eq_args_iff.mp listed'
    have opens := plain_opens notTls' listed second
    rw [plain_of_layout notTls, listed'] at first
    obtain ⟨arg, args, -⟩ := single_of_opens first opens
    refine absurd (layout_eq_args_iff.mpr ⟨?_, ?_⟩) listed
    · exact same.fileName_onto (by rw [unnamed]; rfl) x
    · have number : fresh.errorNumber = none := by
        rw [(heading_of_ofArgs given).1, args]
        rfl
      rw [onto, number]
      exact fun both => nomatch both.1
  cases named : fault.fileName with
  | some name => exact absurd second (not_plain_of_named notTls same differ listed named first)
  | none =>
    have unnamed := same.fileName_onto (by rw [named]; rfl) x
    exact absurd
      ((layout_of_unnamed unnamed listed).trans (layout_of_unnamed named listed').symm) differ

theorem plain_onto_of_layout_eq (notTls : fault.cls ≠ .tls) (same : fault.AsGiven fresh)
    (alike : (fault.onto fresh x).layout = fault.layout)
    (args : fault.layout = .args →
      (fault.onto fresh x).toCarried.plain render [] y = fault.toCarried.plain render [] x) :
    (fault.onto fresh x).plain render [] y = fault.plain render [] x := by
  have notTls' := same.onto_ne_tls notTls x
  rw [plain_of_layout notTls, plain_of_layout notTls', alike]
  cases layout : fault.layout with
  | twoNames | oneName => simp only [heading_onto same]
  | heading => exact heading_onto same x _
  | args => exact args layout

theorem plain_carried_onto (many : 1 < fault.args.length) :
    (fault.onto { cls := fault.cls, args := fault.args } x).toCarried.plain render [] y =
      Carried.argsForm render [] y { args := fault.args } :=
  Carried.plain_of_many rfl many

theorem plain_onto_iff (notTls : fault.cls ≠ .tls)
    (given : ofArgs s fault.cls fault.args = .ok fresh) (same : fault.AsGiven fresh)
    (first : fault.plain render [] x = .ok text) :
    (fault.onto fresh x).plain render [] y = .ok text ↔
      fault.LaidOutAs fresh ∧
        (fault.fileName = none → 5 < fault.args.length →
          Carried.argsForm render [] y { args := fault.args } =
            Carried.argsForm render [] (fault.argsTuple.getD x) { args := fault.args }) ∨
      ∃ arg, fault.args = [arg] ∧ fault.fileName.getD .null = .null ∧
        render [] .plain arg = .ok text := by
  have notTls' := same.onto_ne_tls notTls x
  constructor
  · intro second
    by_cases alike : (fault.onto fresh x).layout = fault.layout
    · refine .inl ⟨(layout_onto_eq_iff given same x).mp alike, fun unnamed long => ?_⟩
      have bare := headingOf_eq_none_iff.mpr (.inr long)
      rw [ofArgs_of_no_heading bare] at given
      cases given
      have listed : (fault.onto { cls := fault.cls, args := fault.args } x).layout = .args :=
        layout_eq_args_iff.mpr ⟨by rw [onto, unnamed]; rfl, nofun⟩
      rw [plain_of_layout notTls, ← alike, listed] at first
      rw [plain_of_layout notTls', listed] at second
      have many : 1 < fault.args.length := Nat.lt_trans (by decide) long
      have made := first.symm.trans (Carried.plain_of_many rfl many)
      exact (plain_carried_onto many).symm.trans (second.trans made)
    · exact .inr (single_of_layout_ne notTls given same alike first second)
  · rintro (⟨alike, tuple⟩ | ⟨arg, args, unnamed, shown⟩)
    · have alike' := (layout_onto_eq_iff given same x).mpr alike
      rw [plain_onto_of_layout_eq notTls same alike', first]
      intro listed
      obtain ⟨bare, rfl⟩ := of_layout_onto_args given (alike'.trans listed)
      have unnamed := (layout_eq_args_iff.mp listed).1
      by_cases many : 1 < fault.args.length
      · have long : 5 < fault.args.length := by
          have := headingOf_eq_none_iff.mp bare
          omega
        have same := (tuple unnamed long).trans (Carried.plain_of_many rfl many).symm
        exact (plain_carried_onto many).trans same
      · exact Carried.plain_of_few rfl (Nat.le_of_not_lt many)
    · have bare : headingOf fault.args = none := by rw [args]; rfl
      rw [ofArgs_of_no_heading bare] at given
      cases given
      have unnamed' : keptName fault.fileName none = none := keptName_of_null unnamed
      have listed : (fault.onto { cls := fault.cls, args := fault.args } x).layout = .args :=
        layout_eq_args_iff.mpr ⟨unnamed', nofun⟩
      rw [plain_of_layout notTls', listed]
      simp only [Carried.plain, onto, args, shown]

end

end Fault

theorem Error.intoFault_eq_ok {now after : Session} {e f : Ref} {error : Error} {fault : Fault}
    {v : Value} (holder : now.store.get? e = some (.error error))
    (holds : now.store.kind? error.kind = some (.transport (.object f)))
    (found : now.store.get? f = some (.fault fault)) (returned : intoFault e now = (.ok v, after)) :
    ∃ fresh, Fault.ofArgs now.store fault.cls fault.args = .ok fresh ∧
      v = .object now.store.size ∧
      after = { now with store := now.store.push (.fault (fault.onto fresh f)) } := by
  rw [intoFault_of_transport holder holds found] at returned
  cases rebuild : fault.rebuild now.store f with
  | error r =>
    rw [rebuild] at returned
    cases returned
  | ok rebuilt =>
    rw [rebuild] at returned
    obtain ⟨fresh, given, rfl⟩ := Fault.rebuild_eq_ok_iff.mp rebuild
    cases returned
    exact ⟨fresh, given, rfl, rfl⟩

/-- Whatever was done to a fault of a standard class since it was built, the one that it is rebuilt
as reads the same and has the same text exactly where its slots are those that its arguments give,
save for a name that is set, and are laid out in the same way. A fault of more than five arguments
must also not show itself in them, and a single argument may happen to be the text. -/
theorem rebuilt_current_iff {now after : Session} {e f : Ref} {error : Error} {fault : Fault}
    {v : Value} (standard : fault.cls.isStandard)
    (holder : now.store.get? e = some (.error error))
    (holds : now.store.kind? error.kind = some (.transport (.object f)))
    (found : now.store.get? f = some (.fault fault))
    (returned : Error.intoFault e now = (.ok v, after)) :
    ∃ fresh rebuilt, Fault.ofArgs now.store fault.cls fault.args = .ok fresh ∧
      v = .object now.store.size ∧ after.store.get? now.store.size = some (.fault rebuilt) ∧
      (fault.ReadsAs rebuilt ∧
          (∃ text, after.store.plain v = .ok text ∧ after.store.plain (.object f) = .ok text) ↔
        fault.AsGiven fresh ∧ ∃ text, after.store.plain (.object f) = .ok text ∧
          (fault.LaidOutAs fresh ∧
              (fault.fileName = none → 5 < fault.args.length →
                after.store.tupleAt now.store.size fault.args =
                  after.store.tupleAt (fault.argsTuple.getD f) fault.args) ∨
            ∃ arg, fault.args = [arg] ∧ fault.fileName.getD .null = .null ∧
              after.store.renderHeld [] .plain arg = .ok text)) := by
  obtain ⟨fresh, given, rfl, rfl⟩ := Error.intoFault_eq_ok holder holds found returned
  have here := Store.get?_push_size now.store (.fault (fault.onto fresh f))
  have there := (Store.get?_push_of_lt (.fault (fault.onto fresh f))
    (Store.lt_size_of_get? found)).trans found
  have notTls : fault.cls ≠ .tls := fun tls => by rw [tls] at standard; cases standard
  refine ⟨fresh, fault.onto fresh f, given, rfl, here, ?_⟩
  simp only [Store.plain_fault here, Store.plain_fault there, Fault.readsAs_onto_iff given f]
  refine and_congr_right fun same => exists_congr fun text => ?_
  rw [and_comm]
  exact and_congr_right fun first => Fault.plain_onto_iff notTls given same first

/-- A missing file that was given another error number is rebuilt with that of its arguments. -/
theorem rebuilt_current_iff_renumbered :
    let missing : Fault :=
      { cls := .fileNotFound, args := [.int 2, .text "x"], errorNumber := some (.int 2),
        errorText := some (.text "x") }
    let built : Session := ⟨Store.initial.push (.fault missing), []⟩
    let renumbered := (Change.run 16 [.set "errno" (.int 5)] built).store
    let now : Session :=
      ⟨(renumbered.push (.kind (.transport (.object 16)))).push
        (.error { cls := .base, kind := 17 }), []⟩
    ∃ fault rebuilt after,
      (Script.Constructor.fault .general).apply [.int 2, .text "x"] Session.initial =
        (.ok (.object 16), built) ∧
      now.store.get? 16 = some (.fault fault) ∧
      Error.intoFault 18 now = (.ok (.object 19), after) ∧
      after.store.get? 19 = some (.fault rebuilt) ∧
      ¬ (fault.ReadsAs rebuilt ∧ ∃ text, after.store.plain (.object 19) = .ok text ∧
        after.store.plain (.object 16) = .ok text) := by
  intro missing built renumbered now
  have holder : now.store.get? 18 = some (.error { cls := .base, kind := 17 }) := by decide
  have holds : now.store.kind? 17 = some (.transport (.object 16)) := by decide
  have found : now.store.get? 16 = some (.fault { missing with errorNumber := some (.int 5) }) := by
    decide
  have size : now.store.size = 19 := by decide
  have returned : Error.intoFault 18 now = (.ok (.object now.store.size), _) :=
    Error.intoFault_of_transport holder holds found
  obtain ⟨fresh, rebuilt, given, -, here, current⟩ :=
    rebuilt_current_iff rfl holder holds found returned
  rw [size] at returned here current
  refine ⟨_, rebuilt, _, rfl, found, returned, here, fun reads => ?_⟩
  have number := (current.mp reads).1.errorNumber
  cases given
  exact absurd number (by decide)

end Http2Failure
