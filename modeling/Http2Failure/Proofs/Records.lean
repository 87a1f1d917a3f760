import Http2Failure.Proofs.Acceptance
import Http2Failure.Proofs.ReadOnly

/-!
# What is written to the log

A failure is written to the log where it enters: a fault where it is wrapped, and a failure of the
sending side where it is taken apart, whatever becomes of it then. Nothing else writes to the log.
So the log of a run is made of one record for each of these conversions, in the order of the calls.
-/

namespace Http2Failure

theorem Deeds.log_eq {now after : Session} (h : Deeds .silent now after) :
    after.log = now.log := by
  induction h with
  | none | push => rfl
  | trans _ _ ih ih' => exact ih'.trans ih
  | around _ _ _ _ _ ih => exact ih
  | write may | give may | remake may | restate may | log may => exact may.elim

namespace Error

/-- What was written, if the text of the record could be made. -/
def written : Except Refusal (List LogRecord) → List LogRecord
  | .ok records => records
  | .error _ => []

def transportRecords (s : Store) (v : Value) : List LogRecord :=
  written (announced "Wrapping transport fault: " (s.quoted v))

/-- A failed connection is announced with what it holds, which is not announced again, whether it is
a fault or nothing that can be converted. -/
def sendFailureRecords (s : Store) (v : Value) : List LogRecord :=
  match s.object? v with
  | some (.sendFailure (.misuse m)) =>
    written (announced "Send rejected by local validation: " (s.plain m))
  | some (.sendFailure (.connection w)) =>
    written (announced "Send failed on connection error: " (s.quoted w))
  | _ => []

def records (s : Store) : Route → Value → List LogRecord
  | .transport, v => transportRecords s v
  | .sendFailure, v => sendFailureRecords s v
  | .any, v =>
    match s.object? v with
    | some (.fault _) => transportRecords s v
    | some (.sendFailure _) => sendFailureRecords s v
    | _ => []
  | .kind, _ | .report, _ | .reason, _ | .misuse, _ => []

def Declares (s : Store) : Route → Value → Prop
  | .report, v => ∃ r, s.object? v = some (.report r)
  | .reason, v => ∃ code, s.object? v = some (.reason code)
  | .sendFailure, v => ∃ f, s.object? v = some (.sendFailure f)
  | .misuse, v => ∃ m, v = .misuse m
  | .transport, v => ∃ fault, s.object? v = some (.fault fault)
  | .any, _ => True
  | .kind, _ => False

theorem records_of_declares {s : Store} {route : Route} {v : Value}
    (declares : Declares s route v) : records s .any v = records s route v := by
  cases route with
  | kind => exact declares.elim
  | any => rfl
  | misuse =>
    obtain ⟨m, rfl⟩ := declares
    rfl
  | _ =>
    obtain ⟨_, found⟩ := declares
    simp only [records, found]

section

variable {now : Session} {cls : Class} {v : Value}

theorem log_of_silent {x : Action Value} (h : Action.Does .silent x now Licence.silent.Has) :
    (x now).2.log = now.log ++ [] :=
  (h.deeds (Licence.silent_sound _)).log_eq.trans (List.append_nil _).symm

/-- A record is written where its text can be made, and what comes behind it writes nothing. -/
theorem log_announced (opening : String) (shown : Store → Except Refusal String) {x : Action Value}
    (h : ∀ now, Action.Does .silent x now Licence.silent.Has) :
    ((do
      let text ← .read shown
      .log ⟨.debug, .conversion, opening ++ text⟩
      x : Action Value) now).2.log = now.log ++ written (announced opening (shown now.store)) := by
  simp only [Action.bind_apply, Action.read_apply]
  cases shown now.store with
  | error => exact (List.append_nil _).symm
  | ok text => exact ((h _).deeds (Licence.silent_sound _)).log_eq

theorem log_ofTransport :
    (ofTransport cls v now).2.log = now.log ++ transportRecords now.store v :=
  log_announced _ _ fun _ => does_ofKind _ fun _ _ => Licence.silent_has _ _

theorem log_ofSendFailure :
    (ofSendFailure cls v now).2.log = now.log ++ sendFailureRecords now.store v := by
  have refused :
      ((do throw (.unreachable (← .read fun s => s.quoted v)) : Action Value) now).2.log =
      now.log ++ [] := log_of_silent (.read_bind fun _ _ => .throw _)
  simp only [ofSendFailure, sendFailureRecords, Action.bind_apply, Action.ask_apply]
  cases found : now.store.object? v with
  | none => exact refused
  | some o =>
    cases o with
    | sendFailure f =>
      cases f with
      | misuse m =>
        exact log_announced _ (fun s => s.plain m) fun _ => does_ofMisuse _ (Licence.silent_has _ _)
      | connection w => exact log_announced _ (fun s => s.quoted w) fun _ => does_ofReport _ _
    | _ => exact refused

theorem log_convert : (convert cls v now).2.log = now.log ++ records now.store .any v := by
  have nothing : ∀ refusal, ((throw refusal : Action Value) now).2.log = now.log ++ [] :=
    fun refusal => log_of_silent (.throw _)
  simp only [convert, records, Action.bind_apply, Action.ask_apply]
  cases found : now.store.object? v with
  | none =>
    cases v with
    | misuse m => exact log_of_silent (does_ofMisuse _ (Licence.silent_has _ _))
    | _ => exact nothing _
  | some o =>
    obtain ⟨q, rfl, -⟩ := object?_eq_some_iff.mp found
    cases o with
    | error e => exact (List.append_nil _).symm
    | report r => exact log_of_silent (does_ofReport _ _)
    | reason code => exact log_of_silent (does_ofReason _ (Licence.silent_has _ _))
    | sendFailure f => exact log_ofSendFailure
    | fault f => exact log_ofTransport
    | _ => exact nothing _

theorem log_via (route : Route) :
    (via cls route v now).2.log = now.log ++ records now.store route v := by
  cases route with
  | kind => exact log_of_silent (does_ofValue _ _)
  | report => exact log_of_silent (does_ofReport _ _)
  | reason => exact log_of_silent (does_ofReason _ (Licence.silent_has _ _))
  | misuse => exact log_of_silent (does_ofMisuse _ (Licence.silent_has _ _))
  | sendFailure => exact log_ofSendFailure
  | transport => exact log_ofTransport
  | any => exact log_convert

end

end Error

namespace Query

def records (s : Store) : Query → List LogRecord
  | .conversion _ route v => Error.records s route v
  | _ => []

/-- The query looks at an error that is there already, or converts one by the conversion of any
failure. -/
def IsAfterwards (s : Store) : Query → Prop
  | .conversion _ route v => route = .any ∧ ∃ error, s.object? v = some (.error error)
  | _ => True

/-- A sequence of queries that fit when their turn comes, with all that they announce. -/
inductive Sequence (may : Store → Query → Prop) : Session → List LogRecord → Session → Prop
  | none (now : Session) : Sequence may now [] now
  | next {now after : Session} {q : Query} {announced : List LogRecord} (fits : q.Fits now.store)
    (allowed : may now.store q) (rest : Sequence may (q.run now).2 announced after) :
    Sequence may now (q.records now.store ++ announced) after

variable {now after : Session} {q : Query}

theorem log_run (sound : now.store.Sound) (named : now.store.MethodsNamed)
    (fits : q.Fits now.store) : (q.run now).2.log = now.log ++ q.records now.store := by
  cases conversion : q.isConversion with
  | true =>
    cases q with
    | conversion cls route v => exact Error.log_via route
    | _ => cases conversion
  | false =>
    have silent : Action.Does .silent q.run now Licence.silent.Has :=
      does Licence.silent_isQuiet sound named (fun h => nomatch conversion.symm.trans h) fits
    rw [(silent.deeds (Licence.silent_sound _)).log_eq]
    cases q with
    | conversion => cases conversion
    | _ => exact (List.append_nil _).symm

theorem Sequence.log {may : Store → Query → Prop} {announced : List LogRecord}
    (sequence : Sequence may now announced after) (sound : now.store.Sound)
    (named : now.store.MethodsNamed) : after.log = now.log ++ announced := by
  induction sequence with
  | none => exact (List.append_nil _).symm
  | @next now after q announced fits allowed rest ih =>
    have does := does_run sound named fits
    have named' := (does.deeds fun _ => sound).methodsNamed named
    rw [ih (does.sound (fun _ => sound) trivial) named', log_run sound named fits,
      List.append_assoc]

theorem records_afterwards {s : Store} (afterwards : q.IsAfterwards s) : q.records s = [] := by
  cases q with
  | conversion cls route v =>
    obtain ⟨rfl, error, found⟩ := afterwards
    simp only [records, Error.records, found]
  | _ => rfl

theorem Sequence.announces_nothing {announced : List LogRecord}
    (sequence : Sequence (fun s q => q.IsAfterwards s) now announced after) : announced = [] := by
  induction sequence with
  | none => rfl
  | next _ allowed _ ih => rw [records_afterwards allowed, ih, List.append_nil]

end Query

/-- Every conversion writes its records and nothing else, a value of the type that a conversion is
made for is announced alike by the conversion of any failure, and a whole run writes what its
conversions announce, one after the other. Nothing is written by queries to errors that are there
already, among them their conversions. -/
theorem logged_at_boundaries {start : Session} (sound : start.store.Sound)
    (named : start.store.MethodsNamed) :
    (∀ (cls : Error.Class) (route : Error.Route) (v : Value) (now : Session),
      (Error.via cls route v now).2.log = now.log ++ Error.records now.store route v) ∧
    (∀ (s : Store) (route : Error.Route) (v : Value), Error.Declares s route v →
      Error.records s .any v = Error.records s route v) ∧
    (∀ (announced : List LogRecord) (after : Session),
      Query.Sequence (fun _ _ => True) start announced after →
        after.log = start.log ++ announced) ∧
    ∀ (announced : List LogRecord) (after : Session),
      Query.Sequence (fun s q => q.IsAfterwards s) start announced after →
        after.log = start.log := by
  refine ⟨fun _ route _ _ => Error.log_via route, fun _ _ _ => Error.records_of_declares,
    fun _ _ sequence => sequence.log sound named, fun _ _ sequence => ?_⟩
  rw [sequence.log sound named, sequence.announces_nothing, List.append_nil]

/-- A fault in a failed connection is announced once, and its error is classified in silence. -/
theorem logged_at_boundaries_connection :
    let fault : Fault := { cls := .fileNotFound, args := [.int 2, .text "x"] }
    let base := ((Store.initial.push (.fault fault)).push (.report (.transport (.object 16)))).push
      (.sendFailure (.connection (.object 17)))
    let start : Session := ⟨base, []⟩
    let first := (Query.conversion .base .any (.object 18)).run start
    let second := (Query.recovery (.object 20)).run first.2
    second.2.log = [⟨.debug, .conversion,
      "Send failed on connection error: Io(error=FileNotFoundError(2, 'x'))"⟩] := by
  intro fault base start first second
  have sound : start.store.Sound :=
    ((Store.initial_sound.push (by decide)).push (by decide)).push (by decide)
  have named : start.store.MethodsNamed :=
    ((Store.initial_methodsNamed.pushPlain rfl).pushPlain rfl).pushPlain rfl
  have converts : (Query.conversion .base .any (.object 18)).Fits start.store :=
    ⟨by decide, nofun, nofun⟩
  have unhooked : ∀ name, first.2.store.Unhooked (.object 20) name :=
    fun _ _ _ w _ => Store.not_isBound (by decide +kernel) w
  have classifies : (Query.recovery (.object 20)).Fits first.2.store :=
    ⟨by decide +kernel, nofun, fun name _ => unhooked name⟩
  have sequence : Query.Sequence (fun _ _ => True) start _ second.2 :=
    .next converts trivial (.next classifies trivial (.none _))
  obtain ⟨-, -, runs, -⟩ := logged_at_boundaries sound named
  rw [runs _ _ sequence]
  decide +kernel

/-- What is not promised. The error at 19 has an attribute in the place of the method by which it is
stored, and storing it is wrapping the number of the protocol as a fault. -/
theorem clone_announces :
    let error : Error := { cls := .base, kind := 16, args := [.text "user error: rejected"] }
    let hooked : Error := { error with attributes := [("__reduce_ex__", .object 18)] }
    let start : Session :=
      ⟨(((Store.initial.push (.kind (.misuse (.misuse .rejected)))).push (.error error)).push
        (.method (.object 17) "from_io")).push (.error hooked), []⟩
    start.store.Sound ∧ start.store.MethodsNamed ∧
      start.store.get? 19 = some (.error hooked) ∧
      ((Query.clone .stored 19).run start).2.log =
        [⟨.debug, .conversion, "Wrapping transport fault: 4"⟩] := by
  intro error hooked start
  refine ⟨?_, ?_, by decide, by decide +kernel⟩
  · exact (((Store.initial_sound.push (by decide)).push (by decide)).push (by decide)).push
      (by decide)
  · have wraps : Action.NamesMethod "from_io" :=
      ⟨fun _ _ _ => pure .null, .errorClass .base, none, rfl⟩
    have method : (Object.method (.object 17) "from_io").MadeIn
        ((Store.initial.push (.kind (.misuse (.misuse .rejected)))).push (.error error)) :=
      Object.madeIn_method (.inl wraps)
    exact (((Store.initial_methodsNamed.pushPlain rfl).pushPlain rfl).push
      method.bound).pushPlain rfl

end Http2Failure
