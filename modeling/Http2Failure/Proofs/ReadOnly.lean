import Http2Failure.Proofs.Unhooked

/-!
# Conversions and queries change nothing

Making an error of a failure, writing an error out, asking it, classifying it and cloning it leave
every object as it was that was there before, whether they succeed or are refused. A bound method
that an attribute puts in the place of a method that they look for is called, and does what it does.
-/

namespace Http2Failure

/-- What is done with failures and errors but to change them. -/
inductive Query where
  | conversion (cls : Error.Class) (route : Error.Route) (v : Value)
  | text (v : Value)
  | quoted (v : Value)
  | rendering (kind : Value)
  | question (q : Inspection) (error : Ref)
  | rebuilt (error : Ref)
  | recovery (v : Value)
  | clone (mode : CloneMode) (error : Ref)

namespace Query

def run : Query → Action Value
  | .conversion cls route v => Error.via cls route v
  | .text v => do return .text (← .read fun s => s.plain v)
  | .quoted v => do return .text (← .read fun s => s.quoted v)
  | .rendering kind => do return .text (← .read fun s => Error.textOf s kind)
  | .question q error => .inspect (.object error) q
  | .rebuilt error => .call (.object error) "into_io" []
  | .recovery v => do return .text (← Recovery.classify v).text
  | .clone mode error => .clone mode (.object error)

def subject : Query → Value
  | .conversion _ _ v | .text v | .quoted v | .rendering v | .recovery v => v
  | .question _ error | .rebuilt error | .clone _ error => .object error

/-- The methods that are looked for by their names, also among attributes. -/
def methods : Query → List String
  | .conversion .. | .text _ | .quoted _ | .rendering _ => []
  | .question q _ => q.method :: q.side?.toList.map Initiator.method
  | .rebuilt _ => ["into_io"]
  | .recovery _ => ["is_io", "is_user", "reason", "is_remote"]
  | .clone .shallow _ => []
  | .clone mode _ => mode.hooks

def error? : Query → Option Ref
  | .question _ error | .rebuilt error | .clone _ error => some error
  | _ => none

/-- The query is about something that is there, and no bound method stands in the place of a method
that it looks for. -/
structure Fits (q : Query) (s : Store) : Prop where
  has : s.Has q.subject
  isError : ∀ r, q.error? = some r → ∃ e, s.get? r = some (.error e)
  unhooked : ∀ name ∈ q.methods, s.Unhooked q.subject name

variable {L : Licence} {now : Session}

def isConversion : Query → Bool
  | .conversion .. => true
  | _ => false

theorem does (quiet : L.IsQuiet) (sound : now.store.Sound) (named : now.store.MethodsNamed)
    {q : Query} (logs : q.isConversion = true → L.Logs) (fits : q.Fits now.store) :
    Action.Does L q.run now L.Has := by
  obtain ⟨has, isError, unhooked⟩ := fits
  have here : Visited now q.subject now q.subject := ⟨.refl _, .here⟩
  cases q with
  | conversion cls route v => exact Error.does_via (logs rfl) cls route fun _ => has
  | text v | quoted v | rendering kind => exact .read_bind fun _ _ => .pure fun _ _ => trivial
  | question q error =>
    obtain ⟨e, found⟩ := isError _ rfl
    refine Action.does_question sound has here found (unhooked _ List.mem_cons_self) ?_
    intro side given
    exact unhooked _ (by simp [methods, given])
  | rebuilt error =>
    obtain ⟨e, found⟩ := isError _ rfl
    exact Action.does_rebuild sound has here found (unhooked _ List.mem_cons_self)
  | recovery v =>
    exact (Action.does_classify sound has quiet here unhooked).bind fun _ _ _ _ =>
      .pure fun _ _ => trivial
  | clone mode error =>
    obtain ⟨e, found⟩ := isError _ rfl
    have tour {mode : CloneMode} (unhooked : ∀ name ∈ mode.hooks,
        now.store.Unhooked (.object error) name) :=
      Action.tour_unhooked (L := L) sound has quiet named unhooked
    cases mode with
    | shallow =>
      intro here
      have held := here.parts found (.object e.kind) List.mem_cons_self
      rw [run, Error.clone_shallow_apply found]
      exact Error.does_around .base held here
    | deep => exact Action.does_deepClone (tour unhooked) (.inr .here) fun _ => has
    | stored => exact Action.does_storedClone (tour unhooked) (.inr .here) fun _ => has

/-- Of all that a query may do to a session, only new objects and records in the log are left. -/
theorem does_run (sound : now.store.Sound) (named : now.store.MethodsNamed) {q : Query}
    (fits : q.Fits now.store) : Action.Does .readOnly q.run now Licence.readOnly.Has :=
  does (fun _ _ allowed => allowed) sound named (fun _ => Licence.readOnly_logs) fits

end Query

end Http2Failure
