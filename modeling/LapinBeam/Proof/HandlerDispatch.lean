import LapinBeam.Actor.Dispatch

/-!
# Dispatch and the declarations

`_build_metadata` keeps the marks of the methods as they are. Both dispatchers take a class without
typed handlers for one without any, so a default handler that stands alone is never called.
-/

namespace LapinBeam.Dispatch

open Actor (Exc)

variable {MsgType Msg : Type*} [DecidableEq MsgType] {messages : Messages MsgType Msg}
  {cls : ActorClass MsgType} {metadata before after : Metadata MsgType}

structure Collected (marks : List (String × Mark MsgType)) (before after : Metadata MsgType) :
    Prop where
  default : after.defaultHandler =
    before.defaultHandler.or ((marks.find? fun (_, mark) => mark.default).map Prod.fst)
  typed : ∀ type, after.handlers.lookup (some type) = (before.handlers.lookup (some type)).or
    ((marks.find? fun (_, mark) => mark.type = some type).map Prod.fst)
  empty : after.handlers.isEmpty =
    (before.handlers.isEmpty && !marks.any fun (_, mark) => !mark.default)

theorem Collected.default_cons {name : String} {mark : Mark MsgType}
    {marks : List (String × Mark MsgType)} (hdefault : mark.default = true)
    (hnone : before.defaultHandler = none)
    (hrest : Collected marks { before with defaultHandler := some name } after) :
    Collected ((name, mark) :: marks) before after where
  default := by simp [hrest.default, hdefault, hnone]
  typed type := by
    have hunset : mark.type = none := by simpa [hdefault] using mark.exclusive.symm
    simp [hrest.typed, hunset]
  empty := by simp [hrest.empty, hdefault]

theorem Collected.typed_cons {name : String} {mark : Mark MsgType}
    {marks : List (String × Mark MsgType)} (htyped : mark.default = false)
    (hnone : before.handlers.lookup mark.type = none) (hrest : Collected marks
      { before with handlers := before.handlers ++ [(mark.type, name)] } after) :
    Collected ((name, mark) :: marks) before after where
  default := by simp [hrest.default, htyped]
  typed type := by
    by_cases heq : mark.type = some type
    · rw [heq] at hnone
      simp [hrest.typed, List.lookup_append, heq, hnone]
    · have hother : (some type == mark.type) = false := beq_false_of_ne (Ne.symm heq)
      simp [hrest.typed, List.lookup_append, List.lookup_cons, heq, hother]
  empty := by simp [hrest.empty, htyped]

theorem collected_of_collect {className : String}
    {attributes : List (String × Option (Mark MsgType))}
    (hcollect : collect messages className attributes before = .ok after) :
    Collected (ActorClass.marks ⟨className, attributes⟩) before after := by
  induction attributes generalizing before with
  | nil =>
      cases hcollect
      exact ⟨by simp [ActorClass.marks], by simp [ActorClass.marks], by simp [ActorClass.marks]⟩
  | cons entry rest ih =>
      obtain ⟨name, _ | mark⟩ := entry
      · exact ih hcollect
      · simp only [collect] at hcollect
        split at hcollect
        · split at hcollect
          · cases hcollect
          · exact .default_cons ‹_› ‹_› (ih hcollect)
        · split at hcollect
          · cases hcollect
          · exact .typed_cons (Bool.eq_false_iff.mpr ‹_›) ‹_› (ih hcollect)

section Build

variable (hbuild : buildMetadata messages cls = .ok metadata)
include hbuild

theorem defaultHandler_eq : metadata.defaultHandler = cls.fallback := by
  simpa [ActorClass.fallback] using (collected_of_collect hbuild).default

theorem lookup_handlers_eq (type : MsgType) :
    metadata.handlers.lookup (some type) = cls.typed type := by
  simpa [ActorClass.typed] using (collected_of_collect hbuild).typed type

theorem handlers_isEmpty_eq : metadata.handlers.isEmpty = !cls.hasTyped := by
  simpa [ActorClass.hasTyped] using (collected_of_collect hbuild).empty

theorem dispatch_of_hasTyped (htyped : cls.hasTyped = true) (msg : Msg) :
    dispatch messages cls.name metadata msg = cls.declared messages msg := by
  have hmarked : cls.marks.isEmpty = false := by
    cases hmarks : cls.marks with
    | nil => simp [ActorClass.hasTyped, hmarks] at htyped
    | cons => rfl
  rw [dispatch, handlers_isEmpty_eq hbuild, lookup_handlers_eq hbuild, defaultHandler_eq hbuild,
    ActorClass.declared, htyped, hmarked]
  cases cls.typed (messages.type msg) <;> cases cls.fallback <;> rfl

theorem dispatch_of_not_hasTyped (hnone : cls.hasTyped = false) (msg : Msg) :
    dispatch messages cls.name metadata msg = .ok .receive := by
  rw [dispatch, handlers_isEmpty_eq hbuild, hnone]
  rfl

omit hbuild in
theorem declared_of_default_only (hnone : cls.hasTyped = false) (hmarked : cls.marks ≠ [])
    (msg : Msg) : ∃ name, cls.declared messages msg = .ok (.handler name) := by
  obtain ⟨⟨name, mark⟩, marks, hmarks⟩ := List.exists_cons_of_ne_nil hmarked
  have hdefault : mark.default = true := by
    simp only [ActorClass.hasTyped, hmarks, List.any_cons, Bool.or_eq_false_iff] at hnone
    simpa using hnone.1
  have hfallback : cls.fallback = some name := by simp [ActorClass.fallback, hmarks, hdefault]
  simp only [ActorClass.declared, hmarks, List.isEmpty_cons, hfallback]
  cases cls.typed (messages.type msg) <;> simp

theorem dispatch_eq_declared_iff (msg : Msg) :
    dispatch messages cls.name metadata msg = cls.declared messages msg ↔
      cls.hasTyped = true ∨ cls.marks = [] := by
  constructor
  · intro heq
    by_contra hcontra
    obtain ⟨hnone, hmarked⟩ := not_or.mp hcontra
    rw [Bool.not_eq_true] at hnone
    obtain ⟨name, hdeclared⟩ := declared_of_default_only hnone hmarked msg
    rw [dispatch_of_not_hasTyped hbuild hnone, hdeclared] at heq
    cases heq
  · rintro (htyped | hunmarked)
    · exact dispatch_of_hasTyped hbuild htyped msg
    · rw [dispatch_of_not_hasTyped hbuild (by simp [ActorClass.hasTyped, hunmarked])]
      simp [ActorClass.declared, hunmarked]

omit hbuild [DecidableEq MsgType] in
theorem choice_of_loop_eq {choose other : Msg → Except Exc Call} {run : Call → Msg → Option Exc}
    {msg : Msg} {msgs : List Msg} {call later : Call} (hchoose : choose msg = .ok call)
    (hother : other msg = .ok later)
    (hloop : loop choose run (msg :: msgs) = loop other run (msg :: msgs)) : call = later := by
  have hcalls := congrArg (fun driven => driven.calls.head?) hloop
  simp only [loop, hchoose, hother] at hcalls
  split at hcalls <;> split at hcalls <;> simpa using hcalls

/-- Both dispatchers follow the declarations of a class exactly when it declares a typed handler, or
nothing at all. -/
theorem dispatch_follows_declarations (msg : Msg) :
    (dispatchToInstance messages cls.name metadata msg = cls.declared messages msg ↔
      cls.hasTyped = true ∨ cls.marks = []) ∧
    ∀ run msgs, drive messages cls.name metadata run (msg :: msgs) =
        loop (cls.declared messages) run (msg :: msgs) ↔
      cls.hasTyped = true ∨ cls.marks = [] := by
  refine ⟨dispatch_eq_declared_iff hbuild msg, fun run msgs => ⟨fun hloop => ?_, fun hcases => ?_⟩⟩
  · by_contra hcontra
    obtain ⟨hnone, hmarked⟩ := not_or.mp hcontra
    rw [Bool.not_eq_true] at hnone
    obtain ⟨name, hdeclared⟩ := declared_of_default_only hnone hmarked msg
    cases choice_of_loop_eq (dispatch_of_not_hasTyped hbuild hnone msg) hdeclared hloop
  · have hsame : dispatch messages cls.name metadata = cls.declared messages :=
      funext fun other => (dispatch_eq_declared_iff hbuild other).mpr hcases
    rw [drive, hsame]

end Build

namespace Fixed

def tasks : Messages String String where
  type := id
  typeName := id
  typeRepr type := "<class '" ++ type.getD "object" ++ "'>"

def handlesTask : String × Option (Mark String) := ("handle_task", some ⟨some "Task", false, rfl⟩)

def handlesOther : String × Option (Mark String) := ("handle_other", some ⟨none, true, rfl⟩)

def worker (attributes : List (String × Option (Mark String))) : ActorClass String :=
  ⟨"Worker", attributes ++ [("receive", none)]⟩

end Fixed

theorem dispatch_follows_declarations_task :
    drive Fixed.tasks "Worker" ⟨[(some "Task", "handle_task")], some "handle_other"⟩
        (fun _ _ => none) ["Task", "Event"] =
      ⟨[.handler "handle_task", .handler "handle_other"], none⟩ := by
  have hbuild : buildMetadata Fixed.tasks (Fixed.worker [Fixed.handlesTask, Fixed.handlesOther]) =
      .ok ⟨[(some "Task", "handle_task")], some "handle_other"⟩ := rfl
  have hdrive := ((dispatch_follows_declarations hbuild "Task").2 (fun _ _ => none) ["Event"]).mpr
    (.inl rfl)
  exact hdrive.trans (by decide +kernel)

/-- A default handler that stands alone is passed over, and `receive` is called. -/
theorem default_alone_never_called :
    buildMetadata Fixed.tasks (Fixed.worker [Fixed.handlesOther]) =
        .ok ⟨[], some "handle_other"⟩ ∧
      dispatchToInstance Fixed.tasks "Worker" ⟨[], some "handle_other"⟩ "Task" = .ok .receive ∧
      drive Fixed.tasks "Worker" ⟨[], some "handle_other"⟩ (fun _ _ => none) ["Task"] =
        ⟨[.receive], none⟩ ∧
      (Fixed.worker [Fixed.handlesOther]).declared Fixed.tasks "Task" =
        .ok (.handler "handle_other") :=
  ⟨rfl, rfl, rfl, rfl⟩

end LapinBeam.Dispatch
