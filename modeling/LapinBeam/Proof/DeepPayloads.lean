import LapinBeam.Proof.Serializers

/-!
# Payloads the receiver cannot read

`serde_json` writes documents of any depth and reads them down to 127 levels. What is deeper is
serialized, sent, and dropped by the receiver; everything else comes back as it was, with lists for
tuples.
-/

namespace LapinBeam.Convert

namespace Obj

mutual

def depth : Obj → Nat
  | .list items | .tuple items => depthItems items + 1
  | .dict entries => depthEntries entries + 1
  | _ => 0

def depthItems : List Obj → Nat
  | [] => 0
  | item :: items => max item.depth (depthItems items)

def depthEntries : List (Obj × Obj) → Nat
  | [] => 0
  | (_, value) :: entries => max value.depth (depthEntries entries)

end

mutual

def floatFree : Obj → Bool
  | .float _ => false
  | .list items | .tuple items => floatFreeItems items
  | .dict entries => floatFreeEntries entries
  | _ => true

def floatFreeItems : List Obj → Bool
  | [] => true
  | item :: items => item.floatFree && floatFreeItems items

def floatFreeEntries : List (Obj × Obj) → Bool
  | [] => true
  | (_, value) :: entries => value.floatFree && floatFreeEntries entries

end

mutual

def distinctKeys : Obj → Prop
  | .list items | .tuple items => distinctKeysItems items
  | .dict entries => (entries.map Prod.fst).Nodup ∧ distinctKeysEntries entries
  | _ => True

def distinctKeysItems : List Obj → Prop
  | [] => True
  | item :: items => item.distinctKeys ∧ distinctKeysItems items

def distinctKeysEntries : List (Obj × Obj) → Prop
  | [] => True
  | (_, value) :: entries => value.distinctKeys ∧ distinctKeysEntries entries

end

mutual

def untupled : Obj → Obj
  | .list items | .tuple items => .list (untupledItems items)
  | .dict entries => .dict (untupledEntries entries)
  | obj => obj

def untupledItems : List Obj → List Obj
  | [] => []
  | item :: items => item.untupled :: untupledItems items

def untupledEntries : List (Obj × Obj) → List (Obj × Obj)
  | [] => []
  | (key, value) :: entries => (key, value.untupled) :: untupledEntries entries

end

end Obj

theorem CodePoint.ofChar_of_toChar {point : CodePoint} {c : Char} (hchar : point.toChar = some c) :
    CodePoint.ofChar c = point := by
  simp only [CodePoint.toChar, Option.ite_none_right_eq_some, Option.some.injEq] at hchar
  obtain ⟨hvalid, rfl⟩ := hchar
  have hchar : Char.ofNat point.val = Char.ofNatAux point.val hvalid := dif_pos hvalid
  rw [hchar]
  rfl

theorem pyString_of_extractString {key : Obj} {text : String}
    (hextract : key.extractString = some text) : pyString text = key := by
  cases key with
  | str points =>
      obtain ⟨chars, hchars, rfl⟩ := Option.map_eq_some_iff.mp hextract
      rw [pyString, String.toList_ofList]
      refine congrArg Obj.str ?_
      clear hextract
      induction points generalizing chars with
      | nil =>
          cases hchars
          rfl
      | cons point points ih =>
          rw [List.mapM_cons] at hchars
          obtain ⟨c, hc, hbind⟩ := Option.bind_eq_some_iff.mp hchars
          obtain ⟨rest, hrest, hcons⟩ := Option.bind_eq_some_iff.mp hbind
          cases hcons
          rw [List.map_cons, CodePoint.ofChar_of_toChar hc, ih rest hrest]
  | _ => cases hextract

structure Faithful (obj : Obj) (tree : Tree) : Prop where
  depth : tree.depth = obj.depth
  floats : obj.floatFree = true → tree.floatValues = []
  visits : obj.distinctKeys → visit tree = obj.untupled

theorem faithful_int {value : Int} {tree : Tree}
    (hscalar : serializeScalar (.int value) = .ok tree) : Faithful (.int value) tree := by
  have hwritten : ∃ fits : Json.Integer, fits.1 = value ∧ tree = .int fits := by
    simp only [serializeScalar, Obj.isNone, Obj.castBool, Obj.extractString, Obj.castInt,
      extractI64, extractU64] at hscalar
    by_cases hsigned : -2 ^ 63 ≤ value ∧ value < 2 ^ 63
    · rw [dif_pos hsigned] at hscalar
      exact ⟨_, rfl, (Except.ok.inj hscalar).symm⟩
    · rw [dif_neg hsigned] at hscalar
      by_cases hunsigned : 0 ≤ value ∧ value < 2 ^ 64
      · rw [dif_pos hunsigned] at hscalar
        exact ⟨_, rfl, (Except.ok.inj hscalar).symm⟩
      · rw [dif_neg hunsigned] at hscalar
        cases hscalar
  obtain ⟨fits, rfl, rfl⟩ := hwritten
  exact ⟨rfl, fun _ => rfl, fun _ => rfl⟩

theorem faithful_float {bits : UInt64} {tree : Tree}
    (hscalar : serializeScalar (.float bits) = .ok tree) : Faithful (.float bits) tree := by
  simp only [serializeScalar, Obj.isNone, Obj.castBool, Obj.extractString, Obj.castInt,
    Obj.castFloat] at hscalar
  by_cases hfinite : isFinite bits = true
  · rw [dif_pos hfinite] at hscalar
    cases hscalar
    exact ⟨rfl, fun hfree => (by cases hfree), fun _ => rfl⟩
  · rw [dif_neg hfinite] at hscalar
    cases hscalar

theorem faithful_str {points : List CodePoint} {tree : Tree}
    (hscalar : serializeScalar (.str points) = .ok tree) : Faithful (.str points) tree := by
  cases hextract : Obj.extractString (.str points) with
  | none =>
      simp only [serializeScalar, hextract] at hscalar
      cases hscalar
  | some text =>
      simp only [serializeScalar, hextract] at hscalar
      cases hscalar
      exact ⟨rfl, fun _ => rfl, fun _ => pyString_of_extractString hextract⟩

theorem exists_of_bind {A B : Type} {first : Except String A} {next : A → Except String B} {value : B}
    (hbind : first >>= next = .ok value) : ∃ read, first = .ok read ∧ next read = .ok value := by
  cases first with
  | error message => cases hbind
  | ok read => exact ⟨read, rfl, hbind⟩

theorem faithful_items {items : List Obj} {seq : List Tree}
    (hitems : ∀ item ∈ items, ∀ tree, serialize item = .ok tree → Faithful item tree)
    (hseq : serializeItems items = .ok seq) :
    Json.Tree.depthItems seq = Obj.depthItems items ∧
      (Obj.floatFreeItems items = true → Json.Tree.floatValuesItems seq = []) ∧
      (Obj.distinctKeysItems items → visitSeq seq = Obj.untupledItems items) := by
  induction items generalizing seq with
  | nil =>
      cases hseq
      exact ⟨rfl, fun _ => rfl, fun _ => rfl⟩
  | cons item items ih =>
      rw [serializeItems] at hseq
      obtain ⟨element, helement, hbind⟩ := exists_of_bind hseq
      obtain ⟨rest, hrest, hcons⟩ := exists_of_bind hbind
      cases hcons
      have hitem := hitems item List.mem_cons_self element helement
      obtain ⟨hdepth, hfloats, hvisits⟩ :=
        ih (fun other hother => hitems other (List.mem_cons_of_mem _ hother)) hrest
      refine ⟨?_, fun hfree => ?_, fun hdistinct => ?_⟩
      · rw [Json.Tree.depthItems, Obj.depthItems, hitem.depth, hdepth]
      · rw [Obj.floatFreeItems, Bool.and_eq_true] at hfree
        rw [Json.Tree.floatValuesItems, hitem.floats hfree.1, hfloats hfree.2, List.append_nil]
      · rw [Obj.distinctKeysItems] at hdistinct
        rw [visitSeq, Obj.untupledItems, hitem.visits hdistinct.1, hvisits hdistinct.2]

theorem setItem_of_notMem {points : List CodePoint} {value : Obj} {entries : List (Obj × Obj)}
    (hnew : Obj.str points ∉ entries.map Prod.fst) :
    setItem points value entries = entries ++ [(.str points, value)] := by
  induction entries with
  | nil => rfl
  | cons entry entries ih =>
      rw [List.map_cons, List.mem_cons, not_or] at hnew
      have hother : isKey points entry.1 = false := by
        cases hkey : entry.1 with
        | str other =>
            rw [hkey] at hnew
            rw [isKey, beq_eq_false_iff_ne]
            rintro rfl
            exact hnew.1 rfl
        | _ => rfl
      rw [setItem, hother, ih hnew.2]
      rfl

theorem faithful_entries {entries : List (Obj × Obj)} {map : List (String × Tree)}
    (hentries : ∀ entry ∈ entries, ∀ tree, serialize entry.2 = .ok tree → Faithful entry.2 tree)
    (hmap : serializeEntries entries = .ok map) :
    Json.Tree.depthMembers map = Obj.depthEntries entries ∧
      (Obj.floatFreeEntries entries = true → Json.Tree.floatValuesMembers map = []) ∧
      (Obj.distinctKeysEntries entries → ∀ dict, ((dict ++ entries).map Prod.fst).Nodup →
        visitMap map dict = dict ++ Obj.untupledEntries entries) := by
  induction entries generalizing map with
  | nil =>
      cases hmap
      exact ⟨rfl, fun _ => rfl, fun _ dict _ => (List.append_nil dict).symm⟩
  | cons entry entries ih =>
      obtain ⟨key, value⟩ := entry
      rw [serializeEntries] at hmap
      cases hextract : key.extractString with
      | none =>
          rw [hextract] at hmap
          cases hmap
      | some text =>
          rw [hextract] at hmap
          obtain ⟨written, hwritten, hbind⟩ := exists_of_bind hmap
          obtain ⟨rest, hrest, hcons⟩ := exists_of_bind hbind
          cases hcons
          have hvalue := hentries (key, value) List.mem_cons_self written hwritten
          obtain ⟨hdepth, hfloats, hvisits⟩ :=
            ih (fun other hother => hentries other (List.mem_cons_of_mem _ hother)) hrest
          refine ⟨?_, fun hfree => ?_, fun hdistinct dict hnodup => ?_⟩
          · rw [Json.Tree.depthMembers, Obj.depthEntries, hvalue.depth, hdepth]
          · rw [Obj.floatFreeEntries, Bool.and_eq_true] at hfree
            rw [Json.Tree.floatValuesMembers, hvalue.floats hfree.1, hfloats hfree.2,
              List.append_nil]
          · rw [Obj.distinctKeysEntries] at hdistinct
            have hkey : Obj.str (text.toList.map CodePoint.ofChar) = key :=
              pyString_of_extractString hextract
            have hnew : key ∉ dict.map Prod.fst := by
              rw [List.map_append, List.map_cons] at hnodup
              exact fun hmem => (List.nodup_append.mp hnodup).2.2 key hmem key List.mem_cons_self rfl
            rw [visitMap, setItem_of_notMem (hkey ▸ hnew), hkey, hvalue.visits hdistinct.1,
              hvisits hdistinct.2 _ (by simpa using hnodup), Obj.untupledEntries]
            simp

theorem faithful_of_serialize {obj : Obj} {tree : Tree} (hserialize : serialize obj = .ok tree) :
    Faithful obj tree := by
  induction obj using Obj.induct generalizing tree with
  | list items ih | tuple items ih =>
      rw [serialize] at hserialize
      obtain ⟨seq, hseq, hpure⟩ := exists_of_bind hserialize
      cases hpure
      obtain ⟨hdepth, hfloats, hvisits⟩ := faithful_items (fun item hitem tree => ih item hitem) hseq
      exact ⟨congrArg (· + 1) hdepth, hfloats, fun hkeys => congrArg Obj.list (hvisits hkeys)⟩
  | dict entries ih =>
      rw [serialize] at hserialize
      obtain ⟨map, hmap, hpure⟩ := exists_of_bind hserialize
      cases hpure
      obtain ⟨hdepth, hfloats, hvisits⟩ :=
        faithful_entries (fun entry hentry tree => ih entry hentry) hmap
      refine ⟨congrArg (· + 1) hdepth, hfloats, fun hkeys => congrArg Obj.dict ?_⟩
      exact hvisits hkeys.2 [] hkeys.1
  | none | bool =>
      cases hserialize
      exact ⟨rfl, fun _ => rfl, fun _ => rfl⟩
  | int => exact faithful_int hserialize
  | float => exact faithful_float hserialize
  | str => exact faithful_str hserialize
  | other => cases hserialize

theorem serialize_of_bytes {serde : SerdeJson} {obj : Obj} {bytes : Bytes}
    (hbytes : pyToJsonBytes serde obj = .ok bytes) :
    ∃ tree, serialize obj = .ok tree ∧ bytes = serde.toVec tree := by
  have hagree := agree obj
  cases hfast : serialize obj with
  | ok tree =>
      rw [pyToJsonBytes, hfast] at hbytes
      exact ⟨tree, rfl, (Except.ok.inj hbytes).symm⟩
  | error message =>
      -- The fallback fails as well.
      cases hslow : pyToJson obj with
      | ok value =>
          rw [hfast, hslow] at hagree
          exact hagree.elim
      | error error =>
          rw [pyToJsonBytes, hfast, hslow] at hbytes
          cases hbytes

theorem bytesToPy_toVec {serde : SerdeJson} (hlawful : serde.Lawful) {obj : Obj} {tree : Tree}
    (hserialize : serialize obj = .ok tree) (hfloats : obj.floatFree = true) :
    bytesToPy serde (serde.toVec tree) =
      if obj.depth < 128 then .ok (visit tree)
      else .error (.valueError
        ("payload deserialization failed: " ++ serde.describe (serde.toVec tree))) := by
  have hfaithful := faithful_of_serialize hserialize
  have hread : serde.fromSlice SerdeJson.levels (serde.toVec tree) = _ :=
    hlawful.fromSlice_toVec (by simp [hfaithful.floats hfloats]) SerdeJson.levels
  rw [bytesToPy, List.isEmpty_eq_false_iff.mpr (hlawful.nonempty tree), hread, hfaithful.depth]
  by_cases hdepth : obj.depth < 128
  · have hlevels : obj.depth ≤ SerdeJson.levels := Nat.le_of_lt_succ hdepth
    simp [hdepth, hlevels]
  · have hlevels : ¬ obj.depth ≤ SerdeJson.levels := fun hle => hdepth (Nat.lt_succ_of_le hle)
    simp [hdepth, hlevels]

/-- **A payload is readable exactly if it is not too deep**: of the float-free objects the sender serializes, the receiver gets back those with less than 128 containers inside each other. -/
theorem payload_readable_iff {serde : SerdeJson} (hlawful : serde.Lawful) {obj : Obj}
    {bytes : Bytes} (hfloats : obj.floatFree = true) (hkeys : obj.distinctKeys)
    (hbytes : pyToJsonBytes serde obj = .ok bytes) :
    bytesToPy serde bytes = .ok obj.untupled ↔ obj.depth < 128 := by
  obtain ⟨tree, hserialize, rfl⟩ := serialize_of_bytes hbytes
  rw [bytesToPy_toVec hlawful hserialize hfloats, (faithful_of_serialize hserialize).visits hkeys]
  by_cases hdepth : obj.depth < 128 <;> simp [hdepth]

theorem payload_readable_iff_nested :
    bytesToPy Fixed.serde (Fixed.serde.toVec (.arr [.obj [("a", .int ⟨1, by decide⟩)]])) =
      .ok (.list [.dict [(.str [97], .int 1)]]) :=
  (@payload_readable_iff Fixed.serde Fixed.lawful (.tuple [.dict [(.str [97], .int 1)]]) _ rfl
    (by simp [Obj.distinctKeys, Obj.distinctKeysItems, Obj.distinctKeysEntries]) rfl).mpr (by decide)

namespace Fixed

def nest : Nat → Obj
  | 0 => .list []
  | n + 1 => .list [nest n]

theorem depth_nest (n : Nat) : (nest n).depth = n + 1 := by
  induction n with
  | zero => rfl
  | succ n ih => simp [nest, Obj.depth, Obj.depthItems, ih]

theorem serialize_nest (n : Nat) :
    ∃ tree, serialize (nest n) = .ok tree ∧ (nest n).floatFree = true := by
  induction n with
  | zero => exact ⟨_, rfl, rfl⟩
  | succ n ih =>
      obtain ⟨tree, htree, hfloats⟩ := ih
      refine ⟨.arr [tree], ?_, ?_⟩
      · rw [nest, serialize, serializeItems, serializeItems, htree]
        rfl
      · simp [nest, Obj.floatFree, Obj.floatFreeItems, hfloats]

end Fixed

/-- The sender serializes 128 lists inside each other, and the receiver rejects the bytes. -/
theorem payload_dropped :
    ∃ bytes, pyToJsonBytes Fixed.serde (Fixed.nest 127) = .ok bytes ∧
      bytesToPy Fixed.serde bytes = .error (.valueError "payload deserialization failed: ") := by
  obtain ⟨tree, hserialize, hfloats⟩ := Fixed.serialize_nest 127
  refine ⟨Fixed.serde.toVec tree, by rw [pyToJsonBytes, hserialize], ?_⟩
  rw [bytesToPy_toVec Fixed.lawful hserialize hfloats, Fixed.depth_nest, if_neg (by decide)]
  rfl

end LapinBeam.Convert
