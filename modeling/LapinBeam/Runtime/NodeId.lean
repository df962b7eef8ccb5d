import Mathlib.Data.String.Basic

/-!
# Node identity

A node is named `name@host:port`. Parsing splits at the first `@` and at the last `:` after it, so
a name never holds an `@` and the port text never holds a `:`, while the host may hold both.
-/

namespace LapinBeam

/-- `str::split_once`: the text before and after the first `sep`. -/
def splitOnce (sep : Char) : List Char → Option (List Char × List Char)
  | [] => none
  | c :: rest =>
      if c = sep then some ([], rest)
      else (splitOnce sep rest).map fun (before, after) => (c :: before, after)

/-- `str::rsplit_once`: the text before and after the last `sep`. -/
def rsplitOnce (sep : Char) (text : List Char) : Option (List Char × List Char) :=
  (splitOnce sep text.reverse).map fun (after, before) => (before.reverse, after.reverse)

def stripPlus : List Char → List Char
  | '+' :: rest => rest
  | text => text

/-- `str::parse::<u16>`: an optional `+`, then at least one decimal digit, below `2 ^ 16`. -/
def parsePort (text : List Char) : Option UInt16 :=
  let digits := stripPlus text
  if digits ≠ [] ∧ digits.all Char.isDigit then
    let value := Nat.ofDigitChars 10 digits 0
    if value < 2 ^ 16 then some (UInt16.ofNat value) else none
  else none

structure NodeId where
  name : String
  host : String
  port : UInt16
deriving DecidableEq, Repr

inductive NodeIdError
  | missingAt
  | missingPort
  | emptyName
  | emptyHost
  | invalidPort
deriving DecidableEq, Repr

namespace NodeId

def parse (s : String) : Except NodeIdError NodeId :=
  match splitOnce '@' s.toList with
  | none => .error .missingAt
  | some (name, addr) =>
      match rsplitOnce ':' addr with
      | none => .error .missingPort
      | some (host, portStr) =>
          if name = [] then .error .emptyName
          else if host = [] then .error .emptyHost
          else match parsePort portStr with
            | none => .error .invalidPort
            | some port => .ok ⟨String.ofList name, String.ofList host, port⟩

def withPort (id : NodeId) (port : UInt16) : NodeId := { id with port }

def address (id : NodeId) : String := id.host ++ ":" ++ toString id.port.toNat

def toFull (id : NodeId) : String := id.name ++ "@" ++ id.address

/-- What `parse` makes sure of: both texts are there and the name ends at the first `@`. -/
structure Valid (id : NodeId) : Prop where
  name_ne_nil : id.name.toList ≠ []
  at_notMem_name : '@' ∉ id.name.toList
  host_ne_nil : id.host.toList ≠ []

end NodeId

section Split

theorem splitOnce_append {sep : Char} {before : List Char} (hbefore : sep ∉ before)
    (after : List Char) : splitOnce sep (before ++ sep :: after) = some (before, after) := by
  induction before with
  | nil => simp [splitOnce]
  | cons c rest ih =>
      have hne : c ≠ sep := fun heq => hbefore (heq ▸ List.mem_cons_self)
      have hrest : sep ∉ rest := fun hmem => hbefore (List.mem_cons_of_mem _ hmem)
      simp [splitOnce, hne, ih hrest]

theorem splitOnce_eq_some {sep : Char} {text before after : List Char}
    (hsplit : splitOnce sep text = some (before, after)) :
    text = before ++ sep :: after ∧ sep ∉ before := by
  induction text generalizing before with
  | nil => simp [splitOnce] at hsplit
  | cons c rest ih =>
      rw [splitOnce] at hsplit
      by_cases heq : c = sep
      · simp only [heq, ↓reduceIte, Option.some.injEq, Prod.mk.injEq] at hsplit
        obtain ⟨rfl, rfl⟩ := hsplit
        simp [heq]
      · simp only [heq, ↓reduceIte, Option.map_eq_some_iff, Prod.exists, Prod.mk.injEq] at hsplit
        obtain ⟨head, tail, htail, rfl, rfl⟩ := hsplit
        obtain ⟨rfl, hnotMem⟩ := ih htail
        refine ⟨rfl, ?_⟩
        rw [List.mem_cons, not_or]
        exact ⟨fun h => heq h.symm, hnotMem⟩

theorem rsplitOnce_append {sep : Char} {after : List Char} (hafter : sep ∉ after)
    (before : List Char) : rsplitOnce sep (before ++ sep :: after) = some (before, after) := by
  have hreverse : (before ++ sep :: after).reverse = after.reverse ++ sep :: before.reverse := by
    simp
  rw [rsplitOnce, hreverse, splitOnce_append (by simpa using hafter)]
  simp

end Split

section Port

theorem isDigit_toDigits (n : Nat) : (Nat.toDigits 10 n).all Char.isDigit = true := by
  rw [List.all_eq_true]
  intro c hc
  exact Nat.isDigit_of_mem_toDigits (by decide) (by decide) hc

theorem notMem_toDigits {sep : Char} (hsep : sep.isDigit = false) (n : Nat) :
    sep ∉ Nat.toDigits 10 n := by
  intro hmem
  have hdigit := Nat.isDigit_of_mem_toDigits (by decide) (by decide) hmem
  rw [hsep] at hdigit
  exact Bool.false_ne_true hdigit

theorem stripPlus_toDigits (n : Nat) : stripPlus (Nat.toDigits 10 n) = Nat.toDigits 10 n := by
  unfold stripPlus
  split
  · rename_i rest heq
    have hsep : '+' ∉ Nat.toDigits 10 n := notMem_toDigits (by decide) n
    exact absurd (heq ▸ List.mem_cons_self) hsep
  · rfl

theorem parsePort_toDigits (port : UInt16) :
    parsePort (Nat.toDigits 10 port.toNat) = some port := by
  have hbound : port.toNat < 2 ^ 16 := port.toNat_lt
  unfold parsePort
  rw [stripPlus_toDigits, if_pos ⟨Nat.toDigits_ne_nil, isDigit_toDigits _⟩]
  simp only [Nat.ofDigitChars_ten_toDigits, hbound, ↓reduceIte, UInt16.ofNat_toNat]

end Port

namespace NodeId

theorem toList_address (id : NodeId) :
    id.address.toList = id.host.toList ++ ':' :: Nat.toDigits 10 id.port.toNat := by
  simp [address]

theorem toList_toFull (id : NodeId) :
    id.toFull.toList = id.name.toList ++ '@' :: id.address.toList := by
  simp [toFull]

theorem parse_toFull {id : NodeId} (hvalid : id.Valid) : parse id.toFull = .ok id := by
  unfold parse
  rw [toList_toFull, splitOnce_append hvalid.at_notMem_name]
  simp only [toList_address]
  rw [rsplitOnce_append (notMem_toDigits (by decide) _)]
  simp only [hvalid.name_ne_nil, hvalid.host_ne_nil, ↓reduceIte, parsePort_toDigits,
    String.ofList_toList]

theorem valid_of_parse {s : String} {id : NodeId} (hparse : parse s = .ok id) : id.Valid := by
  unfold parse at hparse
  split at hparse
  · cases hparse
  rename_i name addr hsplit
  split at hparse
  · cases hparse
  rename_i host portStr _
  split at hparse
  · cases hparse
  rename_i hname
  split at hparse
  · cases hparse
  rename_i hhost
  split at hparse
  · cases hparse
  obtain rfl := Except.ok.inj hparse
  exact ⟨by simpa using hname, by simpa using (splitOnce_eq_some hsplit).2, by simpa using hhost⟩

theorem Valid.withPort {id : NodeId} (hvalid : id.Valid) (port : UInt16) :
    (id.withPort port).Valid :=
  ⟨hvalid.name_ne_nil, hvalid.at_notMem_name, hvalid.host_ne_nil⟩

theorem toFull_injective {left right : NodeId} (hleft : left.Valid) (hright : right.Valid)
    (heq : left.toFull = right.toFull) : left = right := by
  have hparse := parse_toFull hleft
  rw [heq, parse_toFull hright] at hparse
  exact (Except.ok.inj hparse).symm

end NodeId

end LapinBeam
