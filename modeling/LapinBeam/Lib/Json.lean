import LapinBeam.Lib.JsonText

/-!
# JSON documents

A document is a tree whose objects keep their members in the order of the text, duplicates included.
`write` is a compact writer, `parse` a reader that opens at most so many arrays and objects inside
each other. `parse_write` says when reading undoes writing: exactly when the limit allows the depth
of the document.

Numbers without a point or an exponent are integers as far as they fit in 64 bits. How a floating
point number is printed and read is a parameter.
-/

namespace Json

abbrev Integer := {n : Int // -2 ^ 63 ≤ n ∧ n < 2 ^ 64}

inductive Tree (F : Type)
  | null
  | bool (value : Bool)
  | int (value : Integer)
  | float (value : F)
  | str (value : String)
  | arr (items : List (Tree F))
  | obj (members : List (String × Tree F))

/-- Text for floating point numbers. What is printed cannot be taken for an integer. -/
structure FloatText (F : Type) where
  print : F → Decimal
  read : Decimal → Option F
  valid : ∀ x, (print x).Valid
  fractional : ∀ x, (print x).fractional = true

variable {F : Type}

namespace Tree

@[elab_as_elim]
theorem induct {motive : Tree F → Prop} (null : motive .null)
    (bool : ∀ value, motive (.bool value)) (int : ∀ value, motive (.int value))
    (float : ∀ value, motive (.float value)) (str : ∀ value, motive (.str value))
    (arr : ∀ items, (∀ item ∈ items, motive item) → motive (.arr items))
    (obj : ∀ members, (∀ member ∈ members, motive member.2) → motive (.obj members))
    (tree : Tree F) : motive tree :=
  @Tree.rec F motive (fun items => ∀ item ∈ items, motive item)
    (fun members => ∀ member ∈ members, motive member.2) (fun member => motive member.2)
    null bool int float str arr obj (by simp) (by simp_all) (by simp) (by simp_all)
    (fun _ _ hvalue => hvalue) tree

mutual

def depth : Tree F → Nat
  | .arr items => depthItems items + 1
  | .obj members => depthMembers members + 1
  | _ => 0

def depthItems : List (Tree F) → Nat
  | [] => 0
  | item :: items => max item.depth (depthItems items)

def depthMembers : List (String × Tree F) → Nat
  | [] => 0
  | (_, value) :: members => max value.depth (depthMembers members)

end

mutual

def floatValues : Tree F → List F
  | .float value => [value]
  | .arr items => floatValuesItems items
  | .obj members => floatValuesMembers members
  | _ => []

def floatValuesItems : List (Tree F) → List F
  | [] => []
  | item :: items => item.floatValues ++ floatValuesItems items

def floatValuesMembers : List (String × Tree F) → List F
  | [] => []
  | (_, value) :: members => value.floatValues ++ floatValuesMembers members

end

theorem mem_floatValuesItems {x : F} {items : List (Tree F)} {item : Tree F} (hitem : item ∈ items)
    (hx : x ∈ item.floatValues) : x ∈ floatValuesItems items := by
  induction items with
  | nil => cases hitem
  | cons other items ih =>
      rcases List.mem_cons.mp hitem with rfl | hmem
      · exact List.mem_append_left _ hx
      · exact List.mem_append_right _ (ih hmem)

theorem mem_floatValuesMembers {x : F} {members : List (String × Tree F)}
    {member : String × Tree F} (hmember : member ∈ members) (hx : x ∈ member.2.floatValues) :
    x ∈ floatValuesMembers members := by
  induction members with
  | nil => cases hmember
  | cons other members ih =>
      rcases List.mem_cons.mp hmember with rfl | hmem
      · exact List.mem_append_left _ hx
      · exact List.mem_append_right _ (ih hmem)

theorem depthItems_le {levels : Nat} (items : List (Tree F)) :
    depthItems items ≤ levels ↔ ∀ item ∈ items, item.depth ≤ levels := by
  induction items with
  | nil => simp [depthItems]
  | cons item items ih => simp [depthItems, ih]

theorem depthMembers_le {levels : Nat} (members : List (String × Tree F)) :
    depthMembers members ≤ levels ↔ ∀ member ∈ members, member.2.depth ≤ levels := by
  induction members with
  | nil => simp [depthMembers]
  | cons member members ih => simp [depthMembers, ih]

end Tree

def separated : List (List Char) → List Char
  | [] => []
  | [text] => text
  | text :: texts => text ++ ',' :: separated texts

section Write

variable (floats : FloatText F)

mutual

def write : Tree F → List Char
  | .null => "null".toList
  | .bool value => if value then "true".toList else "false".toList
  | .int value => (Decimal.ofInt value).text
  | .float value => (floats.print value).text
  | .str value => writeString value
  | .arr items => '[' :: (separated (writeItems items) ++ [']'])
  | .obj members => '{' :: (separated (writeMembers members) ++ ['}'])

def writeItems : List (Tree F) → List (List Char)
  | [] => []
  | item :: items => write item :: writeItems items

def writeMembers : List (String × Tree F) → List (List Char)
  | [] => []
  | (key, value) :: members => (writeString key ++ ':' :: write value) :: writeMembers members

end

def writeMember (member : String × Tree F) : List Char :=
  writeString member.1 ++ ':' :: write floats member.2

theorem writeItems_eq_map (items : List (Tree F)) :
    writeItems floats items = items.map (write floats) := by
  induction items with
  | nil => rfl
  | cons item items ih => rw [writeItems, ih, List.map_cons]

theorem writeMembers_eq_map (members : List (String × Tree F)) :
    writeMembers floats members = members.map (writeMember floats) := by
  induction members with
  | nil => rfl
  | cons member members ih => rw [writeMembers, ih, List.map_cons, writeMember]

end Write

section Parse

variable {A : Type}

def consEntry (first : Option (A × List Char)) (later : List Char → Option (List A × List Char)) :
    Option (List A × List Char) := do
  let (value, rest) ← first
  let (values, rest) ← later rest
  return (value :: values, rest)

/-- The entries up to the closing bracket. Every round reads a bracket or an entry. -/
def parseEntries (close : Char) (entry : List Char → Option (A × List Char)) :
    Nat → Bool → List Char → Option (List A × List Char)
  | 0, _, _ => none
  | fuel + 1, first, text =>
      match skipSpace text with
      | [] => none
      | c :: rest =>
          if c = close then some ([], rest)
          else if first then
            consEntry (entry (c :: rest)) (parseEntries close entry fuel false)
          else if c = ',' then consEntry (entry rest) (parseEntries close entry fuel false)
          else none

def parseMember (value : List Char → Option (A × List Char)) (text : List Char) :
    Option ((String × A) × List Char) :=
  match skipSpace text with
  | [] => none
  | c :: rest =>
      if c = quote then do
        let (key, rest) ← parseString rest
        match skipSpace rest with
        | [] => none
        | colon :: rest =>
            if colon = ':' then do
              let (read, rest) ← value rest
              return ((key, read), rest)
            else none
      else none

/-- A number. What does not fit in 64 bits is read as a floating point number, and so is `-0`. -/
def ofDecimal (floats : FloatText F) (decimal : Decimal) : Option (Tree F) :=
  if h : decimal.fractional = false ∧ ¬ (decimal.negative = true ∧ decimal.whole = 0) ∧
      -2 ^ 63 ≤ decimal.whole ∧ decimal.whole < 2 ^ 64 then
    some (.int ⟨decimal.whole, h.2.2⟩)
  else (floats.read decimal).map .float

def parseWord (word : List Char) (tree : Tree F) (text : List Char) :
    Option (Tree F × List Char) :=
  if word.isPrefixOf text then some (tree, text.drop word.length) else none

def parseTree (floats : FloatText F) (array object : List Char → Option (Tree F × List Char))
    (text : List Char) : Option (Tree F × List Char) :=
  match skipSpace text with
  | [] => none
  | c :: rest =>
      if c = 'n' then parseWord "ull".toList .null rest
      else if c = 't' then parseWord "rue".toList (.bool true) rest
      else if c = 'f' then parseWord "alse".toList (.bool false) rest
      else if c = quote then (parseString rest).map fun read => (.str read.1, read.2)
      else if c = '[' then array rest
      else if c = '{' then object rest
      else if c = '-' ∨ c.isDigit then do
        let (decimal, rest) ← parseDecimal (c :: rest)
        let tree ← ofDecimal floats decimal
        return (tree, rest)
      else none

/-- A reader that opens at most `levels` arrays and objects inside each other. -/
def parse (floats : FloatText F) : Nat → List Char → Option (Tree F × List Char)
  | 0 => parseTree floats (fun _ => none) (fun _ => none)
  | levels + 1 =>
      parseTree floats
        (fun text => (parseEntries ']' (parse floats levels) (text.length + 1) true text).map
          fun read => (.arr read.1, read.2))
        (fun text => (parseEntries '}' (parseMember (parse floats levels)) (text.length + 1)
          true text).map fun read => (.obj read.1, read.2))

end Parse

section Entries

variable {A : Type} {close : Char} {entry : List Char → Option (A × List Char)}
  {text : A → List Char} {good : A → Prop} [DecidablePred good]

/-- The text begins with a character that is neither a space nor a closing bracket. -/
def Opens (text : List Char) : Prop :=
  ∃ c rest, text = c :: rest ∧ isSpace c = false ∧ c ≠ ']' ∧ c ≠ '}'

theorem ends_comma (rest : List Char) : Ends (',' :: rest) := by
  rintro c ⟨⟩
  decide

theorem ends_bracket (hclose : close = ']' ∨ close = '}') (rest : List Char) :
    Ends (close :: rest) := by
  rintro c ⟨⟩
  rcases hclose with rfl | rfl <;> decide

theorem separated_cons (x : A) (xs : List A) :
    separated ((x :: xs).map text) = text x ++ xs.flatMap fun y => ',' :: text y := by
  induction xs generalizing x with
  | nil => simp [separated]
  | cons y ys ih =>
      rw [List.map_cons, List.map_cons, separated, ← List.map_cons, ih]
      · simp
      · simp

theorem consEntry_eq {later : List Char → Option (List A × List Char)} {behind rest : List Char}
    {x : A} {xs : List A}
    (hlater : later behind = if ∀ y ∈ xs, good y then some (xs, rest) else none) :
    consEntry (if good x then some (x, behind) else none) later =
      if ∀ y ∈ x :: xs, good y then some (x :: xs, rest) else none := by
  by_cases hgood : good x
  · by_cases hall : ∀ y ∈ xs, good y
    · rw [if_pos hall] at hlater
      rw [if_pos hgood, if_pos (List.forall_mem_cons.mpr ⟨hgood, hall⟩)]
      simp [consEntry, hlater]
    · rw [if_neg hall] at hlater
      rw [if_pos hgood, if_neg fun h => hall (List.forall_mem_cons.mp h).2]
      simp [consEntry, hlater]
  · rw [if_neg hgood, if_neg fun h => hgood (List.forall_mem_cons.mp h).1]
    rfl

theorem ends_entries (text : A → List Char) (hclose : close = ']' ∨ close = '}') (xs : List A)
    (rest : List Char) :
    Ends ((xs.flatMap fun x => ',' :: text x) ++ close :: rest) := by
  cases xs with
  | nil => exact ends_bracket hclose rest
  | cons y ys => exact ends_comma _

theorem parseEntries_later {fuel : Nat} {rest : List Char} {xs : List A}
    (hclose : close = ']' ∨ close = '}')
    (hentry : ∀ x ∈ xs, ∀ rest, Ends rest →
      entry (text x ++ rest) = if good x then some (x, rest) else none)
    (hfuel : xs.length < fuel) :
    parseEntries close entry fuel false ((xs.flatMap fun x => ',' :: text x) ++ close :: rest) =
      if ∀ x ∈ xs, good x then some (xs, rest) else none := by
  induction xs generalizing fuel with
  | nil =>
      obtain ⟨fuel, rfl⟩ : ∃ more, fuel = more + 1 := ⟨fuel - 1, by simp at hfuel; omega⟩
      have hspace : isSpace close = false := by rcases hclose with rfl | rfl <;> decide
      simp [parseEntries, skipSpace_cons hspace]
  | cons x xs ih =>
      obtain ⟨fuel, rfl⟩ : ∃ more, fuel = more + 1 := ⟨fuel - 1, by simp at hfuel; omega⟩
      have hcomma : ',' ≠ close := by rcases hclose with rfl | rfl <;> decide
      have hlater := ih (fun y hy => hentry y (List.mem_cons_of_mem _ hy)) (by simpa using hfuel)
      rw [List.flatMap_cons, List.cons_append, List.cons_append, List.append_assoc, parseEntries,
        skipSpace_cons (by decide)]
      simp only [hcomma, ↓reduceIte, Bool.false_eq_true]
      rw [hentry x List.mem_cons_self _ (ends_entries text hclose xs rest)]
      exact consEntry_eq hlater

theorem length_le_separated {xs : List A}
    (hopens : ∀ x ∈ xs, Opens (text x)) : xs.length ≤ (separated (xs.map text)).length := by
  have hone : ∀ x ∈ xs, 1 ≤ (text x).length := by
    intro x hx
    obtain ⟨c, rest, htext, -⟩ := hopens x hx
    simp [htext]
  cases xs with
  | nil => simp
  | cons x xs =>
      have hlater : xs.length ≤ (xs.flatMap fun y => ',' :: text y).length := by
        clear hopens hone
        induction xs with
        | nil => simp
        | cons y ys ih =>
            simp only [List.length_cons, List.flatMap_cons, List.length_append]
            omega
      have hfirst := hone x List.mem_cons_self
      rw [separated_cons, List.length_cons, List.length_append]
      omega

theorem parseEntries_separated (rest : List Char) {xs : List A}
    (hclose : close = ']' ∨ close = '}') (hopens : ∀ x ∈ xs, Opens (text x))
    (hentry : ∀ x ∈ xs, ∀ rest, Ends rest →
      entry (text x ++ rest) = if good x then some (x, rest) else none) :
    parseEntries close entry ((separated (xs.map text) ++ close :: rest).length + 1) true
      (separated (xs.map text) ++ close :: rest) =
      if ∀ x ∈ xs, good x then some (xs, rest) else none := by
  have hlength : xs.length ≤ (separated (xs.map text) ++ close :: rest).length := by
    have hseparated := length_le_separated hopens
    rw [List.length_append]
    omega
  generalize (separated (xs.map text) ++ close :: rest).length = fuel at hlength
  cases xs with
  | nil =>
      have hspace : isSpace close = false := by rcases hclose with rfl | rfl <;> decide
      simp [separated, parseEntries, skipSpace_cons hspace]
  | cons x xs =>
      obtain ⟨c, behind, hc, hspace, hsquare, hcurly⟩ := hopens x List.mem_cons_self
      have hne : c ≠ close := by rcases hclose with rfl | rfl <;> assumption
      have hfirst := hentry x List.mem_cons_self _ (ends_entries text hclose xs rest)
      have hlater := fun y hy => hentry y (List.mem_cons_of_mem x hy)
      rw [hc, List.cons_append] at hfirst
      rw [separated_cons, List.append_assoc, hc, List.cons_append, parseEntries,
        skipSpace_cons hspace]
      simp only [hne, ↓reduceIte, hfirst]
      exact consEntry_eq (parseEntries_later hclose hlater hlength)

end Entries

section Documents

variable {floats : FloatText F} {array object : List Char → Option (Tree F × List Char)}
  {rest : List Char} {decimal : Decimal}

theorem head_number {c : Char} (hc : c = '-' ∨ c.isDigit = true) :
    isSpace c = false ∧ c ≠ ']' ∧ c ≠ '}' ∧ c ≠ 'n' ∧ c ≠ 't' ∧ c ≠ 'f' ∧ c ≠ quote ∧ c ≠ '[' ∧
      c ≠ '{' := by
  rcases hc with rfl | hc
  · decide
  · refine ⟨?_, ?_, ?_, ?_, ?_, ?_, ?_, ?_, ?_⟩
    · rw [Bool.eq_false_iff]
      intro hspace
      simp only [isSpace, Bool.or_eq_true, decide_eq_true_eq] at hspace
      rcases hspace with ((rfl | rfl) | rfl) | rfl <;> cases hc
    all_goals
      rintro rfl
      cases hc

theorem head_text (hvalid : decimal.Valid) :
    ∃ c rest, decimal.text = c :: rest ∧ (c = '-' ∨ c.isDigit = true) := by
  obtain ⟨c, digits, hdigits⟩ := List.exists_cons_of_ne_nil hvalid.integer.1
  have hc := hvalid.integer.2 c (hdigits ▸ List.mem_cons_self)
  cases hnegative : decimal.negative with
  | true => exact ⟨'-', _, by rw [Decimal.text, hnegative]; rfl, .inl rfl⟩
  | false => exact ⟨c, _, by rw [Decimal.text, hnegative, hdigits]; rfl, .inr hc⟩

theorem opens_text (hvalid : decimal.Valid) : Opens decimal.text := by
  obtain ⟨c, rest, htext, hc⟩ := head_text hvalid
  obtain ⟨hspace, hsquare, hcurly, -⟩ := head_number hc
  exact ⟨c, rest, htext, hspace, hsquare, hcurly⟩

theorem opens_write (floats : FloatText F) (tree : Tree F) : Opens (write floats tree) := by
  cases tree with
  | null => exact ⟨'n', _, by rw [write]; rfl, by decide, by decide, by decide⟩
  | bool value =>
      cases value
      · exact ⟨'f', _, by rw [write]; rfl, by decide, by decide, by decide⟩
      · exact ⟨'t', _, by rw [write]; rfl, by decide, by decide, by decide⟩
  | int value =>
      rw [write]
      exact opens_text (Decimal.valid_ofInt value)
  | float value =>
      rw [write]
      exact opens_text (floats.valid value)
  | str value => exact ⟨quote, _, by rw [write, writeString], by decide, by decide, by decide⟩
  | arr items => exact ⟨'[', _, by rw [write], by decide, by decide, by decide⟩
  | obj members => exact ⟨'{', _, by rw [write], by decide, by decide, by decide⟩

theorem parseTree_text (hvalid : decimal.Valid) (hrest : Ends rest) :
    parseTree floats array object (decimal.text ++ rest) =
      (ofDecimal floats decimal).map fun tree => (tree, rest) := by
  have hread := parseDecimal_text hvalid hrest
  obtain ⟨c, behind, htext, hc⟩ := head_text hvalid
  obtain ⟨hspace, -, -, hother⟩ := head_number hc
  rw [htext, List.cons_append] at hread ⊢
  rw [parseTree, skipSpace_cons hspace]
  cases htree : ofDecimal floats decimal <;> simp [hother, hc, hread, htree]

theorem ofDecimal_ofInt (floats : FloatText F) (n : Integer) :
    ofDecimal floats (.ofInt n) = some (.int n) := by
  have hzero : ¬ ((Decimal.ofInt n).negative = true ∧ (Decimal.ofInt n).whole = 0) := by
    rw [Decimal.whole_ofInt, Decimal.ofInt, decide_eq_true_eq]
    omega
  have hfits : -2 ^ 63 ≤ (Decimal.ofInt n).whole ∧ (Decimal.ofInt n).whole < 2 ^ 64 := by
    rw [Decimal.whole_ofInt]
    exact n.2
  rw [ofDecimal, dif_pos ⟨rfl, hzero, hfits⟩]
  simp only [Decimal.whole_ofInt]

theorem ofDecimal_print {x : F} (hx : floats.read (floats.print x) = some x) :
    ofDecimal floats (floats.print x) = some (.float x) := by
  simp [ofDecimal, floats.fractional x, hx]

theorem opens_writeMember (floats : FloatText F) (member : String × Tree F) :
    Opens (writeMember floats member) :=
  ⟨quote, _, rfl, by decide, by decide, by decide⟩

theorem parseMember_writeMember {value : List Char → Option (Tree F × List Char)}
    {member : String × Tree F} {good : Prop} [Decidable good]
    (hvalue : value (write floats member.2 ++ rest) = if good then some (member.2, rest) else none) :
    parseMember value (writeMember floats member ++ rest) =
      if good then some (member, rest) else none := by
  have hkey := parseString_writeString member.1 (':' :: (write floats member.2 ++ rest))
  rw [writeMember, writeString]
  simp only [List.cons_append, List.append_assoc, List.nil_append, parseMember]
  rw [skipSpace_cons (by decide)]
  simp only [↓reduceIte, hkey, Option.bind_eq_bind, Option.bind_some]
  rw [skipSpace_cons (by decide)]
  simp only [↓reduceIte, hvalue]
  split <;> rfl

theorem parseTree_string (s : String) :
    parseTree floats array object (writeString s ++ rest) = some (.str s, rest) := by
  have hread := parseString_writeString s rest
  have hother : quote ≠ 'n' ∧ quote ≠ 't' ∧ quote ≠ 'f' := by decide
  rw [writeString, List.cons_append, List.append_assoc, List.singleton_append, parseTree,
    skipSpace_cons (by decide)]
  simp [hother, hread]

theorem parseTree_bracket (text : List Char) :
    parseTree floats array object ('[' :: text) = array text := by
  rw [parseTree, skipSpace_cons (by decide)]
  simp [quote]

theorem parseTree_brace (text : List Char) :
    parseTree floats array object ('{' :: text) = object text := by
  rw [parseTree, skipSpace_cons (by decide)]
  simp [quote]

/-- **Reading undoes writing** exactly as long as the depth is allowed. -/
theorem parse_write {tree : Tree F}
    (hfloats : ∀ x ∈ tree.floatValues, floats.read (floats.print x) = some x) (levels : Nat)
    (hrest : Ends rest) :
    parse floats levels (write floats tree ++ rest) =
      if tree.depth ≤ levels then some (tree, rest) else none := by
  induction tree using Tree.induct generalizing levels rest with
  | null =>
      cases levels <;>
        simp [parse, parseTree, write, skipSpace, isSpace, parseWord, Tree.depth]
  | bool value =>
      cases value <;> cases levels <;>
        simp [parse, parseTree, write, skipSpace, isSpace, parseWord, Tree.depth]
  | int value =>
      have hread := ofDecimal_ofInt floats value
      cases levels <;>
        simp [parse, write, parseTree_text (Decimal.valid_ofInt value) hrest, hread, Tree.depth]
  | float value =>
      have hread := ofDecimal_print (hfloats value (by simp [Tree.floatValues]))
      cases levels <;>
        simp [parse, write, parseTree_text (floats.valid value) hrest, hread, Tree.depth]
  | str value => cases levels <;> simp [parse, write, parseTree_string, Tree.depth]
  | arr items ih =>
      rw [write, writeItems_eq_map, List.cons_append, List.append_assoc, List.singleton_append]
      cases levels with
      | zero => simp [parse, parseTree_bracket, Tree.depth]
      | succ levels =>
          have hitem : ∀ item ∈ items, ∀ rest, Ends rest →
              parse floats levels (write floats item ++ rest) =
                if item.depth ≤ levels then some (item, rest) else none :=
            fun item hitem rest hrest => ih item hitem
              (fun x hx => hfloats x (Tree.mem_floatValuesItems hitem hx)) levels hrest
          have hread := parseEntries_separated rest (.inl rfl)
            (fun item _ => opens_write floats item) hitem
          rw [parse, parseTree_bracket, hread]
          simp only [Tree.depth, Nat.add_le_add_iff_right, Tree.depthItems_le]
          split <;> rfl
  | obj members ih =>
      rw [write, writeMembers_eq_map, List.cons_append, List.append_assoc, List.singleton_append]
      cases levels with
      | zero => simp [parse, parseTree_brace, Tree.depth]
      | succ levels =>
          have hmember : ∀ member ∈ members, ∀ rest, Ends rest →
              parseMember (parse floats levels) (writeMember floats member ++ rest) =
                if member.2.depth ≤ levels then some (member, rest) else none :=
            fun member hmember rest hrest => parseMember_writeMember <| ih member hmember
              (fun x hx => hfloats x (Tree.mem_floatValuesMembers hmember hx)) levels hrest
          have hread := parseEntries_separated rest (.inr rfl)
            (fun member _ => opens_writeMember floats member) hmember
          rw [parse, parseTree_brace, hread]
          simp only [Tree.depth, Nat.add_le_add_iff_right, Tree.depthMembers_le]
          split <;> rfl

end Documents

end Json
