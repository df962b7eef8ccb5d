import LapinBeam.Py.Convert

/-!
# Two serializers

`PyJson::serialize` and `py_to_json` walk the same objects, one into a serializer and one into a
tree. They fail on the same objects, and where they do not, the bytes of the first denote the value
the second builds. So the fallback of `py_to_json_bytes` never ends in bytes.
-/

namespace LapinBeam.Convert

mutual

/-- The value a document denotes: the order of the members does not matter, and of equal keys the last counts. -/
def canonical : Tree → Value
  | .null => .null
  | .bool value => .bool value
  | .int value => .number (.int value)
  | .float value => .number (.float value)
  | .str value => .string value
  | .arr items => .array (canonicalItems items)
  | .obj members => .object (canonicalMembers members [])

def canonicalItems : List Tree → List Value
  | [] => []
  | item :: items => canonical item :: canonicalItems items

def canonicalMembers : List (String × Tree) → List (String × Value) → List (String × Value)
  | [], out => out
  | (key, value) :: members, out => canonicalMembers members (insert key (canonical value) out)

end

@[elab_as_elim]
theorem Obj.induct {motive : Obj → Prop} (none : motive .none)
    (bool : ∀ value, motive (.bool value)) (int : ∀ value, motive (.int value))
    (float : ∀ bits, motive (.float bits)) (str : ∀ points, motive (.str points))
    (list : ∀ items, (∀ item ∈ items, motive item) → motive (.list items))
    (tuple : ∀ items, (∀ item ∈ items, motive item) → motive (.tuple items))
    (dict : ∀ entries, (∀ entry ∈ entries, motive entry.2) → motive (.dict entries))
    (other : ∀ typeName, motive (.other typeName)) (obj : Obj) : motive obj :=
  @Obj.rec motive (fun items => ∀ item ∈ items, motive item)
    (fun entries => ∀ entry ∈ entries, motive entry.2) (fun entry => motive entry.2)
    none bool int float str list tuple dict other (by simp) (by simp_all) (by simp) (by simp_all)
    (fun _ _ _ hvalue => hvalue) obj

section Agree

variable {A B C D : Type} {view : A → B} {other : C → D}

def Agree (view : A → B) : Except String A → Except PyErr B → Prop
  | .ok fast, .ok slow => view fast = slow
  | .error _, .error _ => True
  | _, _ => False

theorem Agree.bind {fast : Except String A} {slow : Except PyErr B} {next : A → Except String C}
    {after : B → Except PyErr D} (hagree : Agree view fast slow)
    (hnext : ∀ value, Agree other (next value) (after (view value))) :
    Agree other (fast >>= next) (slow >>= after) := by
  cases fast with
  | error message =>
      cases slow with
      | error error => trivial
      | ok value => exact hagree.elim
  | ok value =>
      cases slow with
      | error error => exact hagree.elim
      | ok image =>
          obtain rfl : view value = image := hagree
          exact hnext value

end Agree

theorem agree_scalar (obj : Obj) : Agree canonical (serializeScalar obj) (pyToJsonScalar obj) := by
  unfold serializeScalar pyToJsonScalar
  cases obj.isNone with
  | true => rfl
  | false =>
      cases obj.castBool with
      | some value => rfl
      | none =>
          cases obj.extractString with
          | some value => rfl
          | none =>
              cases obj.castInt with
              | some value =>
                  cases hsigned : extractI64 value with
                  | some fits => simp [hsigned, Agree, canonical]
                  | none =>
                      cases hunsigned : extractU64 value <;>
                        simp [hsigned, hunsigned, Agree, canonical]
              | none =>
                  cases obj.castFloat with
                  | some bits =>
                      by_cases hfinite : isFinite bits = true <;>
                        simp [Number.fromF64, hfinite, Agree, canonical]
                  | none => trivial

theorem agree_items {items : List Obj}
    (hitems : ∀ item ∈ items, Agree canonical (serialize item) (pyToJson item)) :
    Agree canonicalItems (serializeItems items) (pyToJsonItems items) := by
  induction items with
  | nil => rfl
  | cons item items ih =>
      rw [serializeItems, pyToJsonItems]
      refine (hitems item List.mem_cons_self).bind fun element => ?_
      refine (ih fun other hother => hitems other (List.mem_cons_of_mem _ hother)).bind fun seq => ?_
      rfl

theorem agree_entries {entries : List (Obj × Obj)} (out : List (String × Value))
    (hentries : ∀ entry ∈ entries, Agree canonical (serialize entry.2) (pyToJson entry.2)) :
    Agree (canonicalMembers · out) (serializeEntries entries) (pyToJsonEntries entries out) := by
  induction entries generalizing out with
  | nil => rfl
  | cons entry entries ih =>
      obtain ⟨key, value⟩ := entry
      rw [serializeEntries, pyToJsonEntries]
      cases key.extractString with
      | none => trivial
      | some text =>
          refine (hentries (key, value) List.mem_cons_self).bind fun written => ?_
          have hrest := ih (insert text (canonical written) out) fun other hother =>
            hentries other (List.mem_cons_of_mem _ hother)
          rw [← bind_pure (pyToJsonEntries entries _)]
          exact hrest.bind fun map => rfl

theorem agree (obj : Obj) : Agree canonical (serialize obj) (pyToJson obj) := by
  induction obj using Obj.induct with
  | list items ih | tuple items ih =>
      rw [serialize, pyToJson]
      exact (agree_items ih).bind fun seq => rfl
  | dict entries ih =>
      rw [serialize, pyToJson]
      exact (agree_entries [] ih).bind fun map => rfl
  | none | bool | int | float | str | other =>
      rw [serialize, pyToJson]
      · exact agree_scalar _
      all_goals rintro _ ⟨⟩

/-- The longest text the bytes begin with. -/
def validText (data : Bytes) : String :=
  ((List.range (data.length + 1)).reverse.findSome? fun count =>
    String.fromUTF8? ⟨(data.take count).toArray⟩).getD ""

theorem validText_toUTF8 (s : String) : validText s.toUTF8.data.toList = s := by
  have hread := Bincode.fromUTF8?_toUTF8 s
  generalize s.toUTF8.data.toList = data at hread ⊢
  simp [validText, List.range_succ, hread]

namespace SerdeJson

/-- Only how floating point numbers are printed and read, and the texts of errors, are left open. -/
def ofText (floats : Json.FloatText FiniteFloat) (describe : Bytes → String) : SerdeJson where
  toVec tree := (String.ofList (Json.write floats tree)).toUTF8.data.toList
  fromSlice levels data := (Json.parse floats levels (validText data).toList).map Prod.fst
  describe := describe

variable {floats : Json.FloatText FiniteFloat} {describe : Bytes → String}

theorem fromSlice_ofText (levels : Nat) (tree : Tree) :
    (ofText floats describe).fromSlice levels ((ofText floats describe).toVec tree) =
      (Json.parse floats levels (Json.write floats tree ++ [])).map Prod.fst := by
  simp only [ofText, validText_toUTF8, String.toList_ofList, List.append_nil]

theorem read_print_of_exact {value : FiniteFloat} (hexact : (ofText floats describe).Exact value) :
    floats.read (floats.print value) = some value := by
  rw [Exact, fromSlice_ofText, Json.parse, Json.write,
    Json.parseTree_text (floats.valid value) (by simp [Json.Ends])] at hexact
  simpa [Json.ofDecimal, floats.fractional value] using hexact

theorem ofText_lawful : (ofText floats describe).Lawful where
  nonempty tree hnil := by
    obtain ⟨c, rest, hwrite, -⟩ := Json.opens_write floats tree
    have hread := validText_toUTF8 (String.ofList (Json.write floats tree))
    rw [show (String.ofList (Json.write floats tree)).toUTF8.data.toList = [] from hnil,
      hwrite] at hread
    exact absurd (congrArg String.toList ((validText_toUTF8 "").symm.trans hread)) (by simp)
  fromSlice_toVec hfloats levels := by
    rw [fromSlice_ofText, Json.parse_write (fun value hvalue => read_print_of_exact
      (hfloats value hvalue)) levels (by simp [Json.Ends])]
    split <;> rfl

end SerdeJson

namespace Fixed

def floats : Json.FloatText FiniteFloat where
  print x := ⟨false, Nat.toDigits 10 x.1.toNat, some ['0'], none⟩
  read decimal :=
    let bits := UInt64.ofNat (Nat.ofDigitChars 10 decimal.integer 0)
    if h : isFinite bits = true then some ⟨bits, h⟩ else none
  valid x := {
    integer := Json.digits_toDigits _
    leading := fun hzero => by
      show Nat.toDigits 10 x.1.toNat = ['0']
      rw [Json.head?_toDigits hzero]
      rfl
    fraction := by
      rintro _ ⟨⟩
      exact ⟨List.cons_ne_nil _ _, fun c hc => List.mem_singleton.mp hc ▸ rfl⟩
    exponent := by simp }
  fractional _ := rfl

def serde : SerdeJson := .ofText floats fun _ => ""

theorem lawful : serde.Lawful := SerdeJson.ofText_lawful

theorem exact (value : FiniteFloat) : serde.Exact value := by
  have hread : floats.read (floats.print value) = some value := by
    simp [floats, Nat.ofDigitChars_ten_toDigits, value.2]
  rw [SerdeJson.Exact, serde, SerdeJson.fromSlice_ofText,
    Json.parse_write (by simp [Json.Tree.floatValues, hread]) 0 (by simp [Json.Ends])]
  rfl

end Fixed

end LapinBeam.Convert
