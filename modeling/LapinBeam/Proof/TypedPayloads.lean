import LapinBeam.Codec.Payload

/-!
# Typed payloads survive the wire

Encoding and decoding are two recursions over the same tree. For a value that may travel
(`Portable`), what the decoder makes of the JSON image of its encoding is the value with its tuples
turned into lists (`untuple`), instances of dataclasses included: the constructor of a dataclass is
called with the fields it was taken apart into. It must not ask for more than those, and
`__post_init__` must not change them again.
-/

namespace LapinBeam.Codec

theorem lookup_of_mem {β : Type} {entries : List (String × β)} {name : String} {value : β}
    (hnodup : (entries.map Prod.fst).Nodup) (hmem : (name, value) ∈ entries) :
    entries.lookup name = some value := by
  induction entries with
  | nil => cases hmem
  | cons first entries ih =>
      obtain ⟨hfirst, hrest⟩ := List.nodup_cons.mp hnodup
      rcases List.mem_cons.mp hmem with rfl | hmem
      · exact List.lookup_cons_self
      · have hne : name ≠ first.1 := fun heq =>
          hfirst (heq ▸ List.mem_map_of_mem (f := Prod.fst) hmem)
        rw [List.lookup_cons, beq_false_of_ne hne, ih hrest hmem]

theorem mapM_congr {α β : Type} {items : List α} {f g : α → Except Exc β}
    (hitems : ∀ item ∈ items, f item = g item) : items.mapM f = items.mapM g := by
  induction items with
  | nil => rfl
  | cons item items ih =>
      rw [List.mapM_cons, List.mapM_cons, hitems item List.mem_cons_self,
        ih fun item hmem => hitems item (List.mem_cons_of_mem _ hmem)]

def keywords (attributes : List (String × Value)) : List (Value × Value) :=
  attributes.map fun (name, value) => (.str name, value)

theorem keywords_cons (name : String) (value : Value) (attributes : List (String × Value)) :
    keywords ((name, value) :: attributes) = (.str name, value) :: keywords attributes := rfl

theorem find?_keywords (attributes : List (String × Value)) (name : String) :
    (keywords attributes).find? (fun entry => entry.1.isStr name) =
      (attributes.lookup name).map fun value => (.str name, value) := by
  induction attributes with
  | nil => rfl
  | cons first attributes ih =>
      obtain ⟨key, value⟩ := first
      by_cases hname : key = name
      · subst hname
        simp [keywords, Value.isStr]
      · rw [List.lookup_cons, beq_false_of_ne (Ne.symm hname), ← ih]
        simp [keywords, Value.isStr, hname]

section Dataclasses

variable {dataclass : Dataclass} {attributes : List (String × Value)} {name : String} {value : Value}

theorem argument_of_lookup (hlookup : attributes.lookup name = some value) (default : Option Value) :
    argument (keywords attributes) name default = .ok value := by
  simp [argument, find?_keywords, hlookup]

theorem argument_of_default (hlookup : attributes.lookup name = none) :
    argument (keywords attributes) name (some value) = .ok value := by
  simp [argument, find?_keywords, hlookup]

def Dataclass.initDefaults (dataclass : Dataclass) : List (String × Value) :=
  dataclass.initVars.map fun initVar => (initVar.name, initVar.default.getD .none)

theorem nodup_of_fields (hfields : attributes.map Prod.fst = dataclass.fields.map Field.name) :
    (attributes.map Prod.fst).Nodup :=
  hfields ▸ (List.nodup_append.mp dataclass.nodup).1

theorem mapM_fields {β : Type} (f : String → Except Exc β) (g : String × Value → Except Exc β)
    (hfields : attributes.map Prod.fst = dataclass.fields.map Field.name)
    (heq : ∀ name value, (name, value) ∈ attributes → f name = g (name, value)) :
    dataclass.fields.mapM (fun field => f field.name) = attributes.mapM g :=
  calc dataclass.fields.mapM (fun field => f field.name)
    _ = (dataclass.fields.map Field.name).mapM f := List.mapM_map.symm
    _ = (attributes.map Prod.fst).mapM f := by rw [hfields]
    _ = attributes.mapM (fun entry => f entry.1) := List.mapM_map
    _ = attributes.mapM g := mapM_congr fun entry hentry => heq entry.1 entry.2 hentry

variable (hfields : attributes.map Prod.fst = dataclass.fields.map Field.name)

include hfields

theorem takes_keywords (hinit : ∀ field ∈ dataclass.fields, field.init = true) :
    ((keywords attributes).all fun entry => dataclass.takes entry.1) = true := by
  rw [List.all_eq_true]
  intro entry hentry
  obtain ⟨⟨name, value⟩, hmem, rfl⟩ := List.mem_map.mp hentry
  have hname : name ∈ dataclass.fields.map Field.name := hfields ▸ List.mem_map_of_mem hmem
  obtain ⟨field, hfield, rfl⟩ := List.mem_map.mp hname
  have hany : (dataclass.fields.any fun other =>
      other.init && Value.isStr other.name (.str field.name)) = true :=
    List.any_eq_true.mpr ⟨field, hfield, by simp [hinit field hfield, Value.isStr]⟩
  rw [Dataclass.takes, hany, Bool.true_or]

theorem assign_keywords (hinit : ∀ field ∈ dataclass.fields, field.init = true) :
    dataclass.fields.mapM (Dataclass.assign (keywords attributes)) = .ok (attributes.map some) := by
  have hassign : ∀ field ∈ dataclass.fields, Dataclass.assign (keywords attributes) field =
      .ok (some (field.name, (attributes.lookup field.name).getD .none)) := by
    intro field hfield
    have hname : field.name ∈ attributes.map Prod.fst := hfields ▸ List.mem_map_of_mem hfield
    obtain ⟨⟨name, value⟩, hmem, rfl⟩ := List.mem_map.mp hname
    have hlookup := lookup_of_mem (nodup_of_fields hfields) hmem
    rw [Dataclass.assign, if_pos (hinit field hfield), argument_of_lookup hlookup, hlookup]
    rfl
  rw [mapM_congr hassign, mapM_fields (fun name => .ok (some (name, (attributes.lookup name).getD .none)))
    (fun entry => .ok (some entry)) hfields]
  · exact List.mapM_pure
  · intro name value hmem
    rw [lookup_of_mem (nodup_of_fields hfields) hmem]
    rfl

theorem initVars_keywords (hvars : ∀ initVar ∈ dataclass.initVars, initVar.default.isSome) :
    (dataclass.initVars.mapM fun initVar =>
      (argument (keywords attributes) initVar.name initVar.default).map fun value =>
        (initVar.name, value)) = .ok dataclass.initDefaults := by
  have hargument : ∀ initVar ∈ dataclass.initVars,
      (argument (keywords attributes) initVar.name initVar.default).map (fun value =>
        (initVar.name, value)) = .ok (initVar.name, initVar.default.getD .none) := by
    intro initVar hvar
    have hnone : attributes.lookup initVar.name = none := by
      rw [List.lookup_eq_none_iff]
      intro entry hentry
      have hdisjoint := (List.nodup_append.mp dataclass.nodup).2.2
      have hname := hdisjoint entry.1 (hfields ▸ List.mem_map_of_mem hentry) initVar.name
        (List.mem_map_of_mem hvar)
      simpa using Ne.symm hname
    obtain ⟨value, hvalue⟩ := Option.isSome_iff_exists.mp (hvars initVar hvar)
    rw [hvalue, argument_of_default hnone]
    rfl
  rw [mapM_congr hargument]
  exact List.mapM_pure

theorem construct_keywords (hinit : ∀ field ∈ dataclass.fields, field.init = true)
    (hvars : ∀ initVar ∈ dataclass.initVars, initVar.default.isSome) :
    dataclass.construct (keywords attributes) =
      dataclass.postInit attributes dataclass.initDefaults := by
  rw [Dataclass.construct, if_pos (takes_keywords hfields hinit), assign_keywords hfields hinit,
    initVars_keywords hfields hvars]
  change dataclass.postInit ((attributes.map some).filterMap id) _ = _
  rw [List.filterMap_map]
  simp

end Dataclasses

theorem rpartition_append {front last : String} (hlast : '.' ∉ last.toList) :
    rpartition (front ++ "." ++ last) = (front, last) := by
  have hall : ∀ char ∈ last.toList.reverse, (char != '.') = true := by
    intro char hchar
    rw [List.mem_reverse] at hchar
    exact bne_iff_ne.mpr fun heq => hlast (heq ▸ hchar)
  have htext : (front ++ "." ++ last).toList.reverse =
      last.toList.reverse ++ '.' :: front.toList.reverse := by
    simp
  simp only [rpartition, htext]
  rw [List.takeWhile_append_of_pos hall, List.dropWhile_append_of_pos hall]
  simp

namespace Interpreter

variable (interpreter : Interpreter) {cls : ClassId}

structure Importable (cls : ClassId) : Prop where
  topLevel : '.' ∉ (interpreter.classes cls).qualname.toList
  imports : ∃ imported, interpreter.importModule (interpreter.classes cls).moduleName = .ok imported ∧
    interpreter.getattr imported (interpreter.classes cls).qualname = .ok (.cls cls)

variable {interpreter}

theorem Importable.importClass_tag (himportable : interpreter.Importable cls) :
    interpreter.importClass (interpreter.classes cls).tag = .ok (.cls cls) := by
  obtain ⟨imported, hmodule, hgetattr⟩ := himportable.imports
  have hsplit : (interpreter.classes cls).qualname.toList.splitOn '.' =
      [(interpreter.classes cls).qualname.toList] :=
    List.splitOnP_eq_singleton fun char hchar =>
      beq_false_of_ne fun heq => himportable.topLevel (heq ▸ hchar)
  rw [importClass, ClassInfo.tag, rpartition_append himportable.topLevel]
  simp only [hmodule, hsplit]
  change ([_].foldlM _ imported : Except Exc Imported) = _
  rw [List.foldlM_cons, String.ofList_toList, hgetattr]
  rfl

variable (interpreter)

mutual

/-- A value with every tuple replaced by a list. An instance with a codec of its own is one whole. -/
def untuple : Value → Value
  | .list items => keepCustom (.list items) (.list (untupleItems items))
  | .tuple items => keepCustom (.tuple items) (.list (untupleItems items))
  | .dict entries => keepCustom (.dict entries) (.dict (untupleEntries entries))
  | .object cls attributes =>
      keepCustom (.object cls attributes) (.object cls (untupleAttributes attributes))
  | value => value
where
  keepCustom (value otherwise : Value) : Value :=
    if (interpreter.registry (interpreter.tag value)).isSome then value else otherwise

def untupleItems : List Value → List Value
  | [] => []
  | item :: items => untuple item :: untupleItems items

def untupleEntries : List (Value × Value) → List (Value × Value)
  | [] => []
  | (key, value) :: entries => (key, untuple value) :: untupleEntries entries

def untupleAttributes : List (String × Value) → List (String × Value)
  | [] => []
  | (name, value) :: attributes => (name, untuple value) :: untupleAttributes attributes

end

variable {interpreter}

theorem untuple_of_custom {value : Value} {entry : CodecEntry}
    (hentry : interpreter.registry (interpreter.tag value) = some entry) :
    interpreter.untuple value = value := by
  cases value <;> simp [untuple, untuple.keepCustom, hentry]

theorem keepCustom_of_none {value otherwise : Value}
    (hnone : interpreter.registry (interpreter.tag value) = none) :
    untuple.keepCustom interpreter value otherwise = otherwise := by
  simp [untuple.keepCustom, hnone]

theorem encodeCustom_of_none {value : Value} {otherwise : Except Exc (Option Value)}
    (hnone : interpreter.registry (interpreter.tag value) = none) :
    interpreter.encodeCustom value otherwise = otherwise := by
  simp [encodeCustom, hnone]

theorem map_fst_untupleAttributes (attributes : List (String × Value)) :
    (interpreter.untupleAttributes attributes).map Prod.fst = attributes.map Prod.fst := by
  induction attributes with
  | nil => rfl
  | cons first attributes ih => simp [untupleAttributes, ih]

theorem untupleEntries_keywords (attributes : List (String × Value)) :
    interpreter.untupleEntries (keywords attributes) =
      keywords (interpreter.untupleAttributes attributes) := by
  induction attributes with
  | nil => rfl
  | cons first attributes ih => simpa [untupleAttributes, untupleEntries, keywords] using ih

variable (interpreter)

/-- What may be sent: an instance of a class with a codec that the wire lets undo itself, an instance of
a dataclass whose constructor gives back its fields, or a container of such values. -/
inductive Portable : Value → Prop
  | none : Portable .none
  | bool (value : Bool) : Portable (.bool value)
  | int (value : Int) : Portable (.int value)
  | str (value : String) : Portable (.str value)
  | list {items} (hcodec : interpreter.registry "builtins.list" = none)
      (hitems : ∀ item ∈ items, Portable item) : Portable (.list items)
  | tuple {items} (hcodec : interpreter.registry "builtins.tuple" = none)
      (hitems : ∀ item ∈ items, Portable item) : Portable (.tuple items)
  | dict {entries} (hcodec : interpreter.registry "builtins.dict" = none)
      (hkeys : ∀ entry ∈ entries, ∃ key, entry.1 = .str key ∧ key ≠ reserved)
      (hvalues : ∀ entry ∈ entries, Portable entry.2) : Portable (.dict entries)
  | dataclass {cls attributes dataclass}
      (hcodec : interpreter.registry (interpreter.classes cls).tag = none)
      (hdataclass : (interpreter.classes cls).dataclass = some dataclass)
      (himportable : interpreter.Importable cls)
      (hfields : attributes.map Prod.fst = dataclass.fields.map Field.name)
      (hinit : ∀ field ∈ dataclass.fields, field.init = true)
      (hvars : ∀ initVar ∈ dataclass.initVars, initVar.default.isSome)
      (hpost : dataclass.postInit (interpreter.untupleAttributes attributes) dataclass.initDefaults =
        .ok (interpreter.untupleAttributes attributes))
      (hvalues : ∀ entry ∈ attributes, Portable entry.2) : Portable (.object cls attributes)
  | custom {value entry data image}
      (hentry : interpreter.registry (interpreter.tag value) = some entry)
      (hencode : entry.encode value = .ok data) (himage : data.jsonImage = some image)
      (hdecode : entry.decode image = .ok value) : Portable value

def Carried (value : Value) : Prop :=
  ∃ encoded image decoded, interpreter.encodeObj value = .ok encoded ∧
    (encoded.getD value).jsonImage = some image ∧
    interpreter.decodeObj image = .ok decoded ∧ decoded.getD image = interpreter.untuple value

variable {interpreter} {entries : List (Value × Value)}

/-! The loops over containers. What they leave when nothing has changed is what they were given. -/

theorem getD_of_unchanged {changed : Bool} {original out : Value} (hsame : changed = false → out = original) :
    (if changed then some out else none).getD original = out := by
  cases changed with
  | false => exact (hsame rfl).symm
  | true => rfl

theorem cons_of_unchanged {α : Type} {changed : Bool} {new : Option Value} {item : Value}
    {items out : List α} (wrap : Value → α) (hsame : changed = false → out = items)
    (hunchanged : (new.isSome || changed) = false) : wrap (new.getD item) :: out = wrap item :: items := by
  obtain ⟨hnew, hchanged⟩ := Bool.or_eq_false_iff.mp hunchanged
  rw [Option.isSome_eq_false_iff, Option.isNone_iff_eq_none] at hnew
  rw [hnew, hsame hchanged, Option.getD_none]

theorem carried_items {items : List Value} (hitems : ∀ item ∈ items, interpreter.Carried item) :
    ∃ changed out images rebuilt, interpreter.encodeItems items = .ok (changed, out) ∧
      (changed = false → out = items) ∧ Value.jsonItems out = some images ∧
      interpreter.decodeItems images = .ok (rebuilt, interpreter.untupleItems items) ∧
      (rebuilt = false → interpreter.untupleItems items = images) := by
  induction items with
  | nil => exact ⟨false, [], [], false, rfl, fun _ => rfl, rfl, rfl, fun _ => rfl⟩
  | cons item items ih =>
      obtain ⟨encoded, image, decoded, hencoded, himage, hdecoded, huntuple⟩ :=
        hitems item List.mem_cons_self
      obtain ⟨changed, out, images, rebuilt, hout, hsame, himages, hback, hagain⟩ :=
        ih fun item hmem => hitems item (List.mem_cons_of_mem _ hmem)
      refine ⟨encoded.isSome || changed, encoded.getD item :: out, image :: images,
        decoded.isSome || rebuilt, ?_, cons_of_unchanged id hsame, ?_, ?_, ?_⟩
      · rw [encodeItems, hencoded, hout]
        rfl
      · rw [Value.jsonItems, himage, himages]
        rfl
      · rw [decodeItems, hdecoded, hback, untupleItems, ← huntuple]
        rfl
      · rw [untupleItems, ← huntuple]
        exact cons_of_unchanged id hagain

theorem carried_entries (hkeys : ∀ entry ∈ entries, ∃ key, entry.1 = .str key)
    (hvalues : ∀ entry ∈ entries, interpreter.Carried entry.2) :
    ∃ changed out images rebuilt, interpreter.encodeEntries entries = .ok (changed, out) ∧
      (changed = false → out = entries) ∧ Value.jsonEntries out = some images ∧
      images.map Prod.fst = entries.map Prod.fst ∧
      interpreter.decodeEntries images = .ok (rebuilt, interpreter.untupleEntries entries) ∧
      (rebuilt = false → interpreter.untupleEntries entries = images) := by
  induction entries with
  | nil => exact ⟨false, [], [], false, rfl, fun _ => rfl, rfl, rfl, rfl, fun _ => rfl⟩
  | cons first entries ih =>
      obtain ⟨key, value⟩ := first
      obtain ⟨name, rfl⟩ := hkeys _ List.mem_cons_self
      obtain ⟨encoded, image, decoded, hencoded, himage, hdecoded, huntuple⟩ :=
        hvalues _ List.mem_cons_self
      obtain ⟨changed, out, images, rebuilt, hout, hsame, himages, hfst, hback, hagain⟩ :=
        ih (fun entry hmem => hkeys entry (List.mem_cons_of_mem _ hmem))
          fun entry hmem => hvalues entry (List.mem_cons_of_mem _ hmem)
      refine ⟨encoded.isSome || changed, (.str name, encoded.getD value) :: out,
        (.str name, image) :: images, decoded.isSome || rebuilt, ?_,
        cons_of_unchanged (Prod.mk (.str name)) hsame, ?_, ?_, ?_, ?_⟩
      · rw [encodeEntries, hencoded, hout]
        rfl
      · rw [Value.jsonEntries, himage, himages]
        rfl
      · rw [List.map_cons, hfst, List.map_cons]
      · rw [decodeEntries, hdecoded, hback, untupleEntries, ← huntuple]
        rfl
      · rw [untupleEntries, ← huntuple]
        exact cons_of_unchanged (Prod.mk (.str name)) hagain

theorem carried_of_native {value : Value} (hencode : interpreter.encodeObj value = .ok none)
    (himage : value.jsonImage = some value) (hdecode : interpreter.decodeObj value = .ok none)
    (huntuple : interpreter.untuple value = value) : interpreter.Carried value :=
  ⟨none, value, none, hencode, himage, hdecode, huntuple.symm⟩

/-- Lists and tuples alike: what arrives is the list of their items. -/
theorem carried_sequence {value : Value} {items : List Value}
    (hencode : interpreter.encodeObj value = do
      let (changed, out) ← interpreter.encodeItems items
      return if changed then some (.list out) else none)
    (himage : value.jsonImage = (Value.list items).jsonImage)
    (huntuple : interpreter.untuple value = .list (interpreter.untupleItems items))
    (hitems : ∀ item ∈ items, interpreter.Carried item) : interpreter.Carried value := by
  obtain ⟨changed, out, images, rebuilt, hout, hsame, himages, hback, hagain⟩ := carried_items hitems
  refine ⟨if changed then some (.list out) else none, .list images,
    if rebuilt then some (.list (interpreter.untupleItems items)) else none, ?_, ?_, ?_, ?_⟩
  · rw [hencode, hout]
    rfl
  · cases changed with
    | false =>
        rw [hsame rfl] at himages
        simp [himage, Value.jsonImage, himages]
    | true => simp [Value.jsonImage, himages]
  · rw [decodeObj, hback]
    rfl
  · rw [getD_of_unchanged fun hunchanged => by rw [hagain hunchanged], huntuple]

theorem get_eq_none {key : String} (hkeys : ∀ other ∈ entries.map Prod.fst, other.isStr key = false)
    :
    Value.get key entries = .none := by
  have hfind : entries.find? (fun entry => entry.1.isStr key) = none :=
    List.find?_eq_none.mpr fun entry hentry => by simp [hkeys entry.1 (List.mem_map_of_mem hentry)]
  rw [Value.get, hfind]
  rfl

theorem carried_dict (hcodec : interpreter.registry "builtins.dict" = none)
    (hkeys : ∀ entry ∈ entries, ∃ key, entry.1 = .str key ∧ key ≠ reserved)
    (hvalues : ∀ entry ∈ entries, interpreter.Carried entry.2) :
    interpreter.Carried (.dict entries) := by
  obtain ⟨changed, out, images, rebuilt, hout, hsame, himages, hfst, hback, hagain⟩ :=
    carried_entries (fun entry hmem => (hkeys entry hmem).imp fun _ => And.left) hvalues
  have hget : Value.get reserved images = .none := by
    refine get_eq_none fun other hother => ?_
    rw [hfst] at hother
    obtain ⟨entry, hmem, rfl⟩ := List.mem_map.mp hother
    obtain ⟨key, hkey, hne⟩ := hkeys entry hmem
    rw [hkey]
    exact beq_false_of_ne hne
  refine ⟨if changed then some (.dict out) else none, .dict images,
    if rebuilt then some (.dict (interpreter.untupleEntries entries)) else none, ?_, ?_, ?_, ?_⟩
  · rw [encodeObj, encodeCustom_of_none hcodec, hout]
    rfl
  · rw [getD_of_unchanged fun hunchanged => by rw [hsame hunchanged], Value.jsonImage, himages]
    rfl
  · rw [decodeObj]
    simp only [hget, Value.isNone, hback]
    rfl
  · rw [getD_of_unchanged fun hunchanged => by rw [hagain hunchanged], untuple,
      keepCustom_of_none hcodec]

theorem jsonImage_envelope {tag : String} {data image : Value} (himage : data.jsonImage = some image) :
    (envelope tag data).jsonImage = some (envelope tag image) := by
  simp [envelope, Value.jsonImage, Value.jsonEntries, himage]

theorem decodeObj_envelope (tag : String) (data : Value) :
    interpreter.decodeObj (envelope tag data) =
      (interpreter.rebuild (.str tag) data (interpreter.decodeKwargs data)).map some := by
  have hdata : interpreter.decodeData [(.str reserved, .str tag), (.str "data", data)] =
      .ok (data, interpreter.decodeKwargs data) := by
    simp [decodeData, Value.isStr, reserved]
  have hget : Value.get reserved [(.str reserved, .str tag), (.str "data", data)] = .str tag := by
    simp [Value.get, Value.isStr]
  rw [envelope, decodeObj]
  simp only [hget, Value.isNone, hdata]
  rw [if_neg Bool.false_ne_true]
  cases hrebuild : interpreter.rebuild (.str tag) data (interpreter.decodeKwargs data) <;>
    simp [bind, Except.bind, Except.map, hrebuild, pure, Except.pure]

theorem carried_custom {value : Value} {entry : CodecEntry} {data image : Value}
    (hentry : interpreter.registry (interpreter.tag value) = some entry)
    (hencode : entry.encode value = .ok data) (himage : data.jsonImage = some image)
    (hdecode : entry.decode image = .ok value) : interpreter.Carried value := by
  have henveloped (hobj : interpreter.encodeObj value =
      .ok (some (envelope (interpreter.tag value) data))) : interpreter.Carried value := by
    refine ⟨_, envelope (interpreter.tag value) image, some value, hobj, jsonImage_envelope himage, ?_,
      (untuple_of_custom hentry).symm⟩
    rw [decodeObj_envelope]
    simp only [rebuild, hentry, hdecode]
    rfl
  have hcustom (otherwise : Except Exc (Option Value)) : interpreter.encodeCustom value otherwise =
      .ok (some (envelope (interpreter.tag value) data)) := by
    simp only [encodeCustom, hentry, hencode]
    rfl
  -- A codec registered for one of the native types is never asked.
  cases value with
  | none | bool _ | int _ | float _ | str _ =>
      exact carried_of_native rfl rfl rfl rfl
  | list _ | tuple _ | dict _ | object _ _ => exact henveloped (by rw [encodeObj]; exact hcustom _)

theorem encodeAttributes_eq (attributes : List (String × Value)) :
    interpreter.encodeAttributes attributes = attributes.map fun (name, value) =>
      (name, (interpreter.encodeObj value).map fun encoded => encoded.getD value) := by
  induction attributes with
  | nil => rfl
  | cons first attributes ih => rw [encodeAttributes, ih, List.map_cons]

theorem mapM_encodeObj (attributes : List (String × Value)) :
    (attributes.mapM fun (name, value) =>
      ((interpreter.encodeObj value).map fun encoded => encoded.getD value).map fun encoded =>
        (Value.str name, encoded)) =
      (interpreter.encodeEntries (keywords attributes)).map Prod.snd := by
  induction attributes with
  | nil => rfl
  | cons first attributes ih =>
      obtain ⟨name, value⟩ := first
      rw [List.mapM_cons, ih, keywords_cons, encodeEntries]
      dsimp only
      cases interpreter.encodeObj value with
      | error _ => rfl
      | ok _ => cases interpreter.encodeEntries (keywords attributes) <;> rfl

theorem encodeObj_dataclass {attributes : List (String × Value)} {dataclass : Dataclass}
    (hcodec : interpreter.registry (interpreter.classes cls).tag = none)
    (hdataclass : (interpreter.classes cls).dataclass = some dataclass)
    (hfields : attributes.map Prod.fst = dataclass.fields.map Field.name) :
    interpreter.encodeObj (.object cls attributes) =
      (interpreter.encodeEntries (keywords attributes)).map fun (_, data) =>
        some (envelope (interpreter.classes cls).tag (.dict data)) := by
  have hdata : (dataclass.fields.mapM fun field =>
      encodedField (interpreter.encodeAttributes attributes) field.name) =
        (interpreter.encodeEntries (keywords attributes)).map Prod.snd := by
    rw [← mapM_encodeObj]
    refine mapM_fields _ _ hfields fun name value hmem => ?_
    have hnodup : ((interpreter.encodeAttributes attributes).map Prod.fst).Nodup := by
      rw [encodeAttributes_eq, List.map_map]
      exact nodup_of_fields hfields
    have hencoded : (name, (interpreter.encodeObj value).map fun encoded => encoded.getD value) ∈
        interpreter.encodeAttributes attributes := by
      rw [encodeAttributes_eq]
      exact List.mem_map_of_mem hmem
    rw [encodedField, lookup_of_mem hnodup hencoded]
  rw [encodeObj, encodeCustom_of_none hcodec]
  simp only [encodeInstance, hdataclass, hdata]
  cases interpreter.encodeEntries (keywords attributes) <;> rfl

theorem carried_dataclass {attributes : List (String × Value)} {dataclass : Dataclass}
    (hcodec : interpreter.registry (interpreter.classes cls).tag = none)
    (hdataclass : (interpreter.classes cls).dataclass = some dataclass)
    (himportable : interpreter.Importable cls)
    (hfields : attributes.map Prod.fst = dataclass.fields.map Field.name)
    (hinit : ∀ field ∈ dataclass.fields, field.init = true)
    (hvars : ∀ initVar ∈ dataclass.initVars, initVar.default.isSome)
    (hpost : dataclass.postInit (interpreter.untupleAttributes attributes) dataclass.initDefaults =
      .ok (interpreter.untupleAttributes attributes))
    (hvalues : ∀ entry ∈ attributes, interpreter.Carried entry.2) :
    interpreter.Carried (.object cls attributes) := by
  have hkeys : ∀ entry ∈ keywords attributes, ∃ key, entry.1 = .str key := by
    rintro entry hentry
    obtain ⟨⟨name, value⟩, -, rfl⟩ := List.mem_map.mp hentry
    exact ⟨name, rfl⟩
  have hcarried : ∀ entry ∈ keywords attributes, interpreter.Carried entry.2 := by
    rintro entry hentry
    obtain ⟨⟨name, value⟩, hmem, rfl⟩ := List.mem_map.mp hentry
    exact hvalues _ hmem
  obtain ⟨changed, data, images, rebuilt, hdata, -, himages, -, hback, -⟩ :=
    carried_entries hkeys hcarried
  have hconstruct : dataclass.construct (keywords (interpreter.untupleAttributes attributes)) =
      .ok (interpreter.untupleAttributes attributes) := by
    rw [construct_keywords (by rw [map_fst_untupleAttributes, hfields]) hinit hvars, hpost]
  refine ⟨some (envelope (interpreter.classes cls).tag (.dict data)),
    envelope (interpreter.classes cls).tag (.dict images),
    some (.object cls (interpreter.untupleAttributes attributes)), ?_, ?_, ?_, ?_⟩
  · rw [encodeObj_dataclass hcodec hdataclass hfields, hdata]
    rfl
  · refine jsonImage_envelope ?_
    rw [Value.jsonImage, himages]
    rfl
  · rw [decodeObj_envelope, decodeKwargs, hback, untupleEntries_keywords]
    simp only [rebuild, hcodec, himportable.importClass_tag, instantiate, hdataclass, Except.map]
    change (Except.map some ((dataclass.construct _).bind _)) = _
    rw [hconstruct]
    rfl
  · rw [untuple, keepCustom_of_none hcodec]
    rfl

theorem Portable.carried {value : Value} (hportable : interpreter.Portable value) :
    interpreter.Carried value := by
  induction hportable with
  | none | bool _ | int _ | str _ =>
      exact carried_of_native rfl rfl rfl rfl
  | list hcodec _ ih | tuple hcodec _ ih =>
      exact carried_sequence (by rw [encodeObj, encodeCustom_of_none hcodec])
        (by simp [Value.jsonImage]) (by rw [untuple, keepCustom_of_none hcodec]) ih
  | dict hcodec hkeys _ ih => exact carried_dict hcodec hkeys ih
  | dataclass hcodec hdataclass himportable hfields hinit hvars hpost _ ih =>
      exact carried_dataclass hcodec hdataclass himportable hfields hinit hvars hpost ih
  | custom hentry hencode himage hdecode => exact carried_custom hentry hencode himage hdecode

/-- What arrives of a portable value is decoded to the value with its tuples replaced by lists. -/
theorem decodePayload_encodePayload {value : Value} (hportable : interpreter.Portable value) :
    ∃ payload image, interpreter.encodePayload value = .ok payload ∧
      payload.jsonImage = some image ∧
      interpreter.decodePayload image = .ok (interpreter.untuple value) := by
  obtain ⟨encoded, image, decoded, hencoded, himage, hdecoded, huntuple⟩ := hportable.carried
  refine ⟨encoded.getD value, image, ?_, himage, ?_⟩
  · rw [encodePayload, hencoded]
    rfl
  · rw [decodePayload, hdecoded, ← huntuple]
    rfl

end Interpreter

namespace Fixed

def pointCodec : CodecEntry where
  encode
    | .object 0 [("x", x), ("y", y)] => .ok (.dict [(.str "at", .tuple [x, y])])
    | _ => .error .attributeError
  decode
    | .dict [(.str "at", .list [x, y])] => .ok (.object 0 [("x", x), ("y", y)])
    | _ => .error .keyError

/-- `Task` has two fields, and `Scaled` a field and an `InitVar` without a default. -/
def classInfo : ClassId → ClassInfo
  | 0 => { moduleName := "app.shapes", qualname := "Point" }
  | 1 => { moduleName := "app.jobs", qualname := "Task"
           dataclass := some { fields := [{ name := "id" }, { name := "steps" }], nodup := by decide } }
  | _ => { moduleName := "app.jobs", qualname := "Scaled"
           dataclass := some
            { fields := [{ name := "x" }], initVars := [{ name := "scale" }], nodup := by decide } }

def interpreter : Interpreter where
  classes := classInfo
  registry tag := if tag = "app.shapes.Point" then some pointCodec else none
  importModule name := if name = "app.jobs" then .ok (.other 0) else .error .importError
  getattr
    | .other 0, "Task" => .ok (.cls 1)
    | .other 0, "Scaled" => .ok (.cls 2)
    | _, _ => .error .attributeError
  pydantic _ := none
  repr _ := ""

def point : Value := .object 0 [("x", .int 1), ("y", .int 2)]

end Fixed

open Interpreter in
theorem decodePayload_encodePayload_task :
    ∃ payload image,
      Fixed.interpreter.encodePayload
        (.tuple [.object 1 [("id", .int 7), ("steps", .tuple [Fixed.point, .str "go"])], .none]) =
          .ok payload ∧
      payload.jsonImage = some image ∧
      Fixed.interpreter.decodePayload image = .ok
        (.list [.object 1 [("id", .int 7), ("steps", .list [Fixed.point, .str "go"])], .none]) := by
  have hpoint : Fixed.interpreter.Portable Fixed.point :=
    .custom rfl rfl rfl rfl
  have hsteps : Fixed.interpreter.Portable (.tuple [Fixed.point, .str "go"]) :=
    .tuple rfl (by simp [hpoint, Portable.str])
  have htask : Fixed.interpreter.Portable
      (.object 1 [("id", .int 7), ("steps", .tuple [Fixed.point, .str "go"])]) :=
    .dataclass rfl rfl ⟨by decide, .other 0, rfl, rfl⟩ rfl (by decide) (by decide) rfl
      (by simp [hsteps, Portable.int])
  exact decodePayload_encodePayload (.tuple rfl (by simp [htask, Portable.none]))

/-- All fields of `Scaled` are parameters of its constructor, but they are not all of its parameters. -/
theorem decodePayload_initVar :
    Fixed.interpreter.Importable 2 ∧
    Fixed.interpreter.registry (Fixed.classInfo 2).tag = none ∧
    (((Fixed.classInfo 2).dataclass.map fun dataclass =>
      (dataclass.fields.map Field.name, dataclass.fields.all Field.init)) = some (["x"], true)) ∧
    ∃ payload image,
      Fixed.interpreter.encodePayload (.object 2 [("x", .int 1)]) = .ok payload ∧
      payload.jsonImage = some image ∧
      Fixed.interpreter.decodePayload image = .error .typeError :=
  ⟨⟨by decide, .other 0, rfl, rfl⟩, rfl, rfl, _, _, rfl, rfl, rfl⟩

end LapinBeam.Codec
