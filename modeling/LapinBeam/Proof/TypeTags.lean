import LapinBeam.Proof.TypedPayloads

/-!
# Type tags

`_tag` joins the module and the qualified name of a class with the separator both of them use, and
`_import_class` cuts the tag at its last dot. So the names of the classes a class is nested in end up
in the name of the module.
-/

namespace LapinBeam.Codec

def dotted (names : List String) : String := String.intercalate "." names

theorem dotted_cons {first : String} {names : List String} (hne : names ≠ []) :
    dotted (first :: names) = first ++ "." ++ dotted names := by
  cases names with
  | nil => exact absurd rfl hne
  | cons second names => exact String.intercalate_cons_cons

theorem dotted_append_singleton {names : List String} (hne : names ≠ []) (last : String) :
    dotted (names ++ [last]) = dotted names ++ "." ++ last := by
  induction names with
  | nil => exact absurd rfl hne
  | cons first names ih =>
      rw [List.cons_append, dotted_cons (by simp)]
      by_cases hnames : names = []
      · subst hnames
        simp [dotted]
      · rw [ih hnames, dotted_cons hnames]
        simp [String.append_assoc]

namespace Interpreter

variable (interpreter : Interpreter)

structure Found (cls : ClassId) (outer : List String) (name : String) : Prop where
  qualname : (interpreter.classes cls).qualname = dotted (outer ++ [name])
  identifier : '.' ∉ name.toList
  found : ∃ imported, interpreter.importModule (interpreter.classes cls).moduleName = .ok imported ∧
    (outer ++ [name]).foldlM interpreter.getattr imported = .ok (.cls cls)

variable {interpreter} {cls : ClassId} {outer : List String} {name : String}

theorem Found.tag_eq (hfound : interpreter.Found cls outer name) :
    (interpreter.classes cls).tag =
      dotted ((interpreter.classes cls).moduleName :: outer) ++ "." ++ name := by
  rw [ClassInfo.tag, hfound.qualname, ← dotted_cons (by simp), ← List.cons_append,
    dotted_append_singleton (by simp)]

theorem Found.importClass_tag (hfound : interpreter.Found cls outer name) :
    interpreter.importClass (interpreter.classes cls).tag =
      (interpreter.importModule (dotted ((interpreter.classes cls).moduleName :: outer))).bind
        fun imported => interpreter.getattr imported name := by
  have hsplit : name.toList.splitOn '.' = [name.toList] :=
    List.splitOnP_eq_singleton fun char hchar =>
      beq_false_of_ne fun heq => hfound.identifier (heq ▸ hchar)
  rw [importClass, hfound.tag_eq, rpartition_append hfound.identifier]
  simp only [hsplit, List.foldlM_cons, List.foldlM_nil, String.ofList_toList, bind_pure]
  rfl

theorem rebuild_of_importClass {tag : String} (hcodec : interpreter.registry tag = none)
    (himport : interpreter.importClass tag = .ok (.cls cls)) (data : Value)
    (kwargs : Except Exc (List (Value × Value))) :
    interpreter.rebuild (.str tag) data kwargs =
      interpreter.instantiate (.str tag) data kwargs (.cls cls) := by
  simp only [rebuild, hcodec, himport]

/-- The tag of a class that is nested in no other resolves to it, and `_rebuild` goes on with it. The
tag of a nested one does so only where the path to it also names a module that has it. -/
theorem tag_resolves_iff (hfound : interpreter.Found cls outer name) :
    (interpreter.importClass (interpreter.classes cls).tag = .ok (.cls cls) ↔
      outer = [] ∨ ∃ imported,
        interpreter.importModule (dotted ((interpreter.classes cls).moduleName :: outer)) =
          .ok imported ∧ interpreter.getattr imported name = .ok (.cls cls)) ∧
    (outer = [] → interpreter.registry (interpreter.classes cls).tag = none → ∀ data kwargs,
      interpreter.rebuild (.str (interpreter.classes cls).tag) data kwargs =
        interpreter.instantiate (.str (interpreter.classes cls).tag) data kwargs (.cls cls)) := by
  have htop : outer = [] → interpreter.importClass (interpreter.classes cls).tag = .ok (.cls cls) := by
    rintro rfl
    obtain ⟨imported, hmodule, hgetattr⟩ := hfound.found
    have hname : interpreter.getattr imported name = .ok (.cls cls) := by simpa using hgetattr
    have hdotted : dotted [(interpreter.classes cls).moduleName] =
        (interpreter.classes cls).moduleName := by simp [dotted]
    rw [hfound.importClass_tag, hdotted, hmodule]
    exact hname
  refine ⟨⟨fun himport => ?_, ?_⟩, fun houter hcodec data kwargs =>
    rebuild_of_importClass hcodec (htop houter) data kwargs⟩
  · rw [hfound.importClass_tag] at himport
    cases hmodule : interpreter.importModule
        (dotted ((interpreter.classes cls).moduleName :: outer)) with
    | error exc =>
        rw [hmodule] at himport
        cases himport
    | ok imported =>
        rw [hmodule] at himport
        exact .inr ⟨imported, rfl, himport⟩
  · rintro (houter | ⟨imported, hmodule, hgetattr⟩)
    · exact htop houter
    · rw [hfound.importClass_tag, hmodule]
      exact hgetattr

end Interpreter

namespace Fixed

/-- The class `Step`, and the dataclass `Plan.Step` inside another class. -/
def plans : ClassId → ClassInfo
  | 0 => { moduleName := "app.jobs", qualname := "Step" }
  | _ => { moduleName := "app.jobs", qualname := "Plan.Step"
           dataclass := some { fields := [{ name := "id" }], nodup := by decide } }

/-- The package `app` has the module `app.jobs`, and that has the classes. -/
def planner : Interpreter where
  classes := plans
  registry _ := none
  importModule name := if name = "app.jobs" then .ok (.other 0) else .error .importError
  getattr
    | .other 0, "Step" => .ok (.cls 0)
    | .other 0, "Plan" => .ok (.other 1)
    | .other 1, "Step" => .ok (.cls 1)
    | _, _ => .error .attributeError
  pydantic _ := none
  repr _ := "'app.jobs.Plan.Step'"

end Fixed

theorem tag_resolves_iff_step :
    Fixed.planner.Found 0 [] "Step" ∧
      Fixed.planner.importClass (Fixed.plans 0).tag = .ok (.cls 0) := by
  have hfound : Fixed.planner.Found 0 [] "Step" := ⟨rfl, by decide, .other 0, rfl, rfl⟩
  exact ⟨hfound, (Interpreter.tag_resolves_iff hfound).1.mpr (.inl rfl)⟩

/-- An instance of a nested dataclass is sent, and cannot be rebuilt. -/
theorem nested_class_not_rebuilt :
    Fixed.planner.Found 1 ["Plan"] "Step" ∧
      Fixed.planner.importClass (Fixed.plans 1).tag = .error .importError ∧
      ∃ payload, Fixed.planner.encodePayload (.object 1 [("id", .int 7)]) = .ok payload ∧
        payload.jsonImage = some payload ∧
        Fixed.planner.decodePayload payload =
          .error (.valueError "no codec registered for 'app.jobs.Plan.Step'") :=
  ⟨⟨rfl, by decide, .other 0, rfl, rfl⟩, rfl, _, rfl, rfl, rfl⟩

end LapinBeam.Codec
